/-
The canonical path of a file leads to the file.

Whatever a walk over a tree comes to was looked up on the way: there is a chain of names from
the root to it, none of them `.`, `..` or empty, and no link among them.  So a walk along just
those names meets nothing to skip, to turn back from or to follow.  It looks up what was looked
up before, and ends at the same place.
-/
import Handoff.FileTree

namespace Handoff

/-! ### Names -/

namespace Path

/-- A name that something can have: no part of a path that stands for none or for another. -/
structure IsName (name : String) : Prop where
  filled : name ≠ ""
  here : name ≠ "."
  above : name ≠ ".."
  slash : '/' ∉ name.toList

instance (name : String) : Decidable (IsName name) :=
  decidable_of_iff (name ≠ "" ∧ name ≠ "." ∧ name ≠ ".." ∧ '/' ∉ name.toList)
    ⟨fun ⟨filled, here, above, slash⟩ => ⟨filled, here, above, slash⟩,
      fun ⟨filled, here, above, slash⟩ => ⟨filled, here, above, slash⟩⟩

/-- The names of a path have no slash in them. -/
theorem slash_not_mem_of_mem_names {path name : String} (h : name ∈ names path) :
    '/' ∉ name.toList := by
  obtain ⟨part, hpart, rfl⟩ := List.mem_map.1 h
  rw [String.toList_ofList]
  exact Text.not_mem_of_mem_splitOn hpart

end Path

namespace Place

/-- The path to a place begins with a slash, which no name stands before. -/
theorem isAbsolute_path (place : Place) : Path.isAbsolute place.path = true := by
  simp [Path.isAbsolute, path]

theorem path_ne_empty (place : Place) : place.path ≠ "" := by
  intro h
  have habsolute := place.isAbsolute_path
  rw [h] at habsolute
  exact absurd habsolute (by decide)

/-- The names of the path to a place are those that lead to it, behind the empty one before the
first slash.  There is another empty one in the path to the root. -/
theorem names_path {place : Place} (h : ∀ name ∈ place, '/' ∉ name.toList) :
    Path.names place.path = "" :: if place = [] then [""] else place := by
  have hparts : Path.names place.path =
      "" :: (Text.splitOn '/' ("/".intercalate place).toList).map String.ofList := by
    simp [Path.names, path, Text.splitOn]
  rw [hparts]
  congr 1
  by_cases hroot : place = []
  · rw [if_pos hroot, hroot]
    rfl
  · rw [if_neg hroot, String.toList_intercalate]
    have hsplit : Text.splitOn '/' (['/'].intercalate (place.map String.toList)) =
        place.map String.toList := by
      refine Text.splitOn_intercalate (by simpa using hroot) fun part hpart => ?_
      obtain ⟨name, hname, rfl⟩ := List.mem_map.1 hpart
      exact h name hname
    have hslash : "/".toList = ['/'] := rfl
    rw [hslash, hsplit, List.map_map]
    simp [Function.comp_def]

end Place

namespace FileTree

variable {t : FileTree} {place : Place}

/-! ### Places that a walk comes to -/

/-- A place to which names lead that are all looked up and are no links. -/
inductive Direct (t : FileTree) : Place → Prop
  | root : Direct t []
  | under {place : Place} {name : String} {entry : Entry} (above : Direct t place)
      (hname : Path.IsName name) (hlook : t.look place name = .ok entry)
      (hlink : ∀ target, entry ≠ .link target) : Direct t (place ++ [name])

namespace Direct

theorem dropLast (h : Direct t place) : Direct t place.dropLast := by
  cases h with
  | root => exact root
  | under above => rwa [List.dropLast_concat]

theorem origin (h : Direct t place) (path : String) : Direct t (FileTree.origin path place) := by
  unfold FileTree.origin
  split
  · exact root
  · exact h

theorem isName (h : Direct t place) : ∀ name ∈ place, Path.IsName name := by
  induction h with
  | root => simp
  | under above hname hlook hlink ih =>
    intro other hother
    rcases List.mem_append.1 hother with habove | hlast
    · exact ih other habove
    · rwa [List.mem_singleton.1 hlast]

end Direct

/-- What a walk begins directly, it ends directly. -/
theorem walk_direct {links : Nat} {rest : List String} {found : Place} (hplace : Direct t place)
    (hrest : ∀ name ∈ rest, '/' ∉ name.toList) (h : t.walk links rest place = .ok found) :
    Direct t found := by
  fun_induction walk t links rest place with
  | case1 links place =>
    rwa [← Except.ok.inj h]
  | case2 links place name rest hskip ih =>
    exact ih hplace (fun other ho => hrest other (List.mem_cons_of_mem name ho)) h
  | case3 links place rest hback ih =>
    exact ih hplace.dropLast (fun other ho => hrest other (List.mem_cons_of_mem _ ho)) h
  | case4 | case5 | case7 => cases h
  | case6 place name rest hskip hback target links hlook ih =>
    refine ih (hplace.origin target) (fun other ho => ?_) h
    rcases List.mem_append.1 ho with htarget | hbehind
    · exact Path.slash_not_mem_of_mem_names htarget
    · exact hrest other (List.mem_cons_of_mem name hbehind)
  | case8 links place name rest hskip hback entry hlink hlook henter ih =>
    obtain ⟨hfilled, hhere⟩ := not_or.1 hskip
    have hname : Path.IsName name := ⟨hfilled, hhere, hback, hrest name List.mem_cons_self⟩
    exact ih (hplace.under hname hlook hlink)
      (fun other ho => hrest other (List.mem_cons_of_mem name ho)) h

/-- What a path leads to from a direct place is a direct place. -/
theorem resolve_direct {directory : Place} {path : String} (hdirectory : Direct t directory)
    (h : t.resolve directory path = .ok place) : Direct t place := by
  unfold resolve at h
  split at h
  · cases h
  · exact walk_direct (hdirectory.origin path) (fun _ hn => Path.slash_not_mem_of_mem_names hn) h

/-! ### The walk back -/

/-- Names ask for no directory in front of them: looking the first one up will tell. -/
theorem needsDirectory_of_isName {rest : List String} (h : ∀ name ∈ rest, Path.IsName name) :
    needsDirectory rest = false := by
  cases rest with
  | nil => rfl
  | cons name rest =>
    have hname := h name List.mem_cons_self
    simp [needsDirectory, hname.filled, hname.here, hname.above]

/-- One name of something that is no link. -/
theorem walk_name {links : Nat} {name : String} {rest : List String} {entry : Entry}
    (hname : Path.IsName name) (hlook : t.look place name = .ok entry)
    (hlink : ∀ target, entry ≠ .link target) (hrest : needsDirectory rest = false) :
    t.walk links (name :: rest) place = t.walk links rest (place ++ [name]) := by
  have hskip : ¬(name = "" ∨ name = ".") := by simp [hname.filled, hname.here]
  rw [walk, if_neg hskip, if_neg hname.above, hlook]
  cases entry with
  | link target => exact absurd rfl (hlink target)
  | directory => simp [hrest]
  | file => simp [hrest]

/-- The names that lead directly to a place can be left out in front of more names. -/
theorem Direct.walk_append (h : Direct t place) {links : Nat} {rest : List String}
    (hrest : ∀ name ∈ rest, Path.IsName name) :
    t.walk links (place ++ rest) [] = t.walk links rest place := by
  induction h generalizing rest with
  | root => rfl
  | under above hname hlook hlink ih =>
    -- The last name of the place is walked as the first one of the rest.
    rw [List.append_assoc, List.singleton_append, ih (List.forall_mem_cons.2 ⟨hname, hrest⟩)]
    exact walk_name hname hlook hlink (needsDirectory_of_isName hrest)

/-- **The path to a direct place leads there**, wherever it is resolved from. -/
theorem Direct.resolve_path (h : Direct t place) (directory : Place) :
    t.resolve directory place.path = .ok place := by
  have hwalk : t.walk linkLimit place [] = .ok place := by
    have happend : t.walk linkLimit (place ++ []) [] = t.walk linkLimit [] place :=
      h.walk_append (by simp)
    rwa [List.append_nil, walk] at happend
  have horigin : FileTree.origin place.path directory = [] := if_pos place.isAbsolute_path
  rw [resolve, if_neg place.path_ne_empty, horigin,
    Place.names_path fun name hn => (h.isName name hn).slash, walk, if_pos (.inl rfl)]
  by_cases hroot : place = []
  · rw [if_pos hroot, hroot, walk, if_pos (.inl rfl), walk]
  · rwa [if_neg hroot]

end FileTree

/-! ### Canonical paths -/

/-- What canonical paths are in a file system: `find` tells what a path leads to, and each file
that is found has one path, from the root, that leads to it again. -/
structure Canonicalizes {File : Type} (canonicalize : String → Except ResolveError String)
    (find : String → Except ResolveError File) (pathTo : File → String) : Prop where
  canonicalized : ∀ path, canonicalize path = (find path).map pathTo
  absolute : ∀ path file, find path = .ok file → Path.isAbsolute (pathTo file) = true
  leads : ∀ path file, find path = .ok file → find (pathTo file) = .ok file

namespace Canonicalizes

variable {File : Type} {canonicalize : String → Except ResolveError String}
  {find : String → Except ResolveError File} {pathTo : File → String} {path canonical : String}

/-- A canonical path is that of the file a path leads to. -/
theorem exists_file (h : Canonicalizes canonicalize find pathTo)
    (hpath : canonicalize path = .ok canonical) :
    ∃ file, find path = .ok file ∧ pathTo file = canonical := by
  rw [h.canonicalized] at hpath
  cases hfile : find path with
  | error cause =>
    rw [hfile] at hpath
    cases hpath
  | ok file =>
    rw [hfile] at hpath
    exact ⟨file, rfl, Except.ok.inj hpath⟩

theorem canonicalize_of_find (h : Canonicalizes canonicalize find pathTo) {file : File}
    (hfile : find path = .ok file) : canonicalize path = .ok (pathTo file) := by
  rw [h.canonicalized, hfile]
  rfl

theorem isAbsolute_canonical (h : Canonicalizes canonicalize find pathTo)
    (hpath : canonicalize path = .ok canonical) : Path.isAbsolute canonical = true := by
  obtain ⟨file, hfile, rfl⟩ := h.exists_file hpath
  exact h.absolute path file hfile

/-- A canonical path stays as it is. -/
theorem canonicalize_canonical (h : Canonicalizes canonicalize find pathTo)
    (hpath : canonicalize path = .ok canonical) : canonicalize canonical = .ok canonical := by
  obtain ⟨file, hfile, rfl⟩ := h.exists_file hpath
  exact h.canonicalize_of_find (h.leads path file hfile)

end Canonicalizes

/-- In a tree, paths from a direct place have the canonical paths of places. -/
theorem FileTree.canonicalizes {t : FileTree} {directory : Place} (h : Direct t directory) :
    Canonicalizes (t.canonicalize directory) (t.resolve directory) Place.path where
  canonicalized _ := rfl
  absolute _ place _ := place.isAbsolute_path
  leads _ _ hfound := (resolve_direct h hfound).resolve_path directory

end Handoff
