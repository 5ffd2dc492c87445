/-
What the build is told of the linker script.

What is printed is read back line by line, so everything here is said of the directives that
come out of the text.  A line reads as the directive that was printed if its key cannot be
taken for one of the build's own and nothing printed breaks the line.

The script is looked for in two stages that can each fail: its path has to be formed from the
variables, and the path has to lead somewhere.  What is known by then has been said by then.
Both copies of the canonical path are only said once it is there, so they are said together,
and they are the same whatever path led to the script.
-/
import Handoff.Proofs.Canonical
import Handoff.Publication
import Mathlib.Data.List.Basic

namespace Handoff

/-! ### Reading what was printed -/

namespace Directive

/-- The directive is printed on one line, and its key or its name is taken for nothing else. -/
structure Legible (d : Directive) : Prop where
  newline : '\n' ∉ d.line.toList
  key : ∀ key value, d = .metadata key value →
    '=' ∉ key.toList ∧ key ∉ ["rerun-if-changed", "rerun-if-env-changed", "rustc-env"]
  name : ∀ name value, d = .setVariable name value → '=' ∉ name.toList

variable {d : Directive}

/-- A line is cut behind its opening, and again behind its key. -/
theorem ofLine?_eq {line key : String} {value : List Char} (hkey : '=' ∉ key.toList)
    (hline : line.toList = "cargo:".toList ++ (key.toList ++ '=' :: value)) :
    ofLine? line =
      if key = "rerun-if-changed" then some (.rerunIfChanged (.ofList value))
      else if key = "rerun-if-env-changed" then some (.rerunIfVariableChanged (.ofList value))
      else if key = "rustc-env" then
        (Text.cut? '=' value).map fun set => .setVariable (.ofList set.1) (.ofList set.2)
      else some (.metadata key (.ofList value)) := by
  have hopening : "cargo:".toList.isPrefixOf? line.toList = some (key.toList ++ '=' :: value) := by
    simp [hline, List.isPrefixOf?]
  simp only [ofLine?, hopening, Text.cut?_append hkey, String.toList_inj, String.ofList_toList]

/-- **A legible line reads as the directive it was printed from.** -/
theorem Legible.ofLine?_line (h : d.Legible) : ofLine? d.line = some d := by
  cases d with
  | rerunIfChanged path =>
    have hline : (rerunIfChanged path).line.toList =
        "cargo:".toList ++ ("rerun-if-changed".toList ++ '=' :: path.toList) := by
      simp
    rw [ofLine?_eq (by decide) hline, if_pos rfl, String.ofList_toList]
  | rerunIfVariableChanged name =>
    have hline : (rerunIfVariableChanged name).line.toList =
        "cargo:".toList ++ ("rerun-if-env-changed".toList ++ '=' :: name.toList) := by
      simp
    rw [ofLine?_eq (by decide) hline, if_neg (by decide), if_pos rfl, String.ofList_toList]
  | metadata key text =>
    have hline : (metadata key text).line.toList =
        "cargo:".toList ++ (key.toList ++ '=' :: text.toList) := by
      simp
    obtain ⟨hkey, hreserved⟩ := h.key key text rfl
    simp only [List.mem_cons, List.not_mem_nil, or_false, not_or] at hreserved
    obtain ⟨hchanged, hvariable, hset⟩ := hreserved
    rw [ofLine?_eq hkey hline, if_neg hchanged, if_neg hvariable, if_neg hset, String.ofList_toList]
  | setVariable name text =>
    have hline : (setVariable name text).line.toList =
        "cargo:".toList ++ ("rustc-env".toList ++ '=' :: (name.toList ++ '=' :: text.toList)) := by
      simp
    rw [ofLine?_eq (by decide) hline, if_neg (by decide), if_neg (by decide), if_pos rfl,
      Text.cut?_append (h.name name text rfl), Option.map_some, String.ofList_toList,
      String.ofList_toList]

/-- What is printed of legible directives reads as the directives. -/
theorem readAll_printed {directives : List Directive} (h : ∀ d ∈ directives, d.Legible) :
    readAll (printed directives) = directives := by
  have hlines : (printed directives).toList =
      directives.flatMap fun d => d.line.toList ++ ['\n'] := by
    rw [printed, String.toList_join, List.flatMap_map]
    simp only [String.toList_append]
    rfl
  have hread : (directives.map fun d => d.line.toList).filterMap
      (fun line => ofLine? (.ofList line)) = directives := by
    rw [List.filterMap_map]
    refine (List.filterMap_congr fun d hd => ?_).trans List.filterMap_some
    rw [Function.comp_apply, String.ofList_toList, (h d hd).ofLine?_line]
  rw [readAll, hlines, Text.splitOn_flatMap fun d hd => (h d hd).newline, List.filterMap_append,
    hread]
  exact List.append_nil directives

end Directive

/-! ### What is said -/

/-- What a text tells the build: which files and which variable to watch, and which paths are
published, each as metadata and as a variable of the package. -/
structure Announces (text : String) (watched published : List String) : Prop where
  files : (Directive.readAll text).filterMap Directive.watchedPath? = "build.rs" :: watched
  inputs : (Directive.readAll text).filterMap Directive.watchedVariable? =
    ["CUPRUX_LINKER_SCRIPT"]
  metadata : (Directive.readAll text).filterMap Directive.metadata? =
    published.map fun path => ("KERNEL_LD", path)
  set : (Directive.readAll text).filterMap Directive.setting? =
    published.map fun path => ("CUPRUX_KERNEL_LD", path)

/-- All that is said where some files are to be watched and some paths are published. -/
def said (watched published : List String) : List Directive :=
  preamble ++ watched.map .rerunIfChanged ++ published.flatMap announcement

section Said

variable {watched published : List String}

/-- The keys and the names that are used are taken for nothing else. -/
theorem legible_of_mem_said (hwatched : ∀ path ∈ watched, '\n' ∉ path.toList)
    (hpublished : ∀ path ∈ published, '\n' ∉ path.toList) {d : Directive}
    (hd : d ∈ said watched published) : d.Legible := by
  rcases List.mem_append.1 hd with hknown | hannounced
  · rcases List.mem_append.1 hknown with hpreamble | hfile
    · rcases (by simpa [preamble] using hpreamble : _ ∨ _) with rfl | rfl
      · exact ⟨by decide, nofun, nofun⟩
      · exact ⟨by decide, nofun, nofun⟩
    · obtain ⟨path, hpath, rfl⟩ := List.mem_map.1 hfile
      refine ⟨?_, nofun, nofun⟩
      simp [hwatched path hpath]
  · obtain ⟨path, hpath, hpublish⟩ := List.mem_flatMap.1 hannounced
    have hnewline := hpublished path hpath
    rcases (by simpa [announcement] using hpublish : _ ∨ _) with rfl | rfl
    · have hline : '\n' ∉ (Directive.metadata metadataKey path).line.toList := by
        simp [metadataKey, hnewline]
      refine ⟨hline, fun key value hsame => ?_, nofun⟩
      cases hsame
      decide
    · have hline : '\n' ∉ (Directive.setVariable publishedName path).line.toList := by
        simp [publishedName, hnewline]
      refine ⟨hline, nofun, fun name value hsame => ?_⟩
      cases hsame
      decide

/-- What one reader of directives finds in all that is said. -/
theorem filterMap_said {α : Type} (read : Directive → Option α) :
    (said watched published).filterMap read =
      preamble.filterMap read ++ watched.filterMap (fun path => read (.rerunIfChanged path)) ++
        published.flatMap fun path => (announcement path).filterMap read := by
  rw [said, List.filterMap_append, List.filterMap_append, List.filterMap_map,
    List.filterMap_flatMap]
  rfl

/-- What is printed for paths without newlines announces them. -/
theorem announces_said (hwatched : ∀ path ∈ watched, '\n' ∉ path.toList)
    (hpublished : ∀ path ∈ published, '\n' ∉ path.toList) :
    Announces (Directive.printed (said watched published)) watched published := by
  have hread : Directive.readAll (Directive.printed (said watched published)) =
      said watched published :=
    Directive.readAll_printed fun d hd => legible_of_mem_said hwatched hpublished hd
  constructor <;> rw [hread, filterMap_said]
  · simp [preamble, announcement, List.filterMap_cons, Directive.watchedPath?]
  · simp [preamble, announcement, List.filterMap_cons, Directive.watchedVariable?,
      Environment.scriptName]
  · simp [preamble, announcement, List.filterMap_cons, Directive.metadata?, metadataKey,
      List.map_eq_flatMap]
  · simp [preamble, announcement, List.filterMap_cons, Directive.setting?, publishedName,
      List.map_eq_flatMap]

end Said

/-! ### The script to work on -/

namespace Environment

/-- The path that the variables give: that of another script if one is named by text, and else
that of the usual one in the directory of the package. -/
inductive Chooses (e : Environment) : String → Prop
  | named {path : String} (hscript : e.script = .text path) : Chooses e path
  | usual {directory : String} (hscript : ∀ path, e.script ≠ .text path)
      (hpackage : e.package = .text directory) : Chooses e (Path.join directory "kernel.ld")

variable {e : Environment} {path : String}

/-- The path is formed just where the variables give one. -/
theorem scriptPath_eq_ok_iff : e.scriptPath = .ok path ↔ e.Chooses path := by
  constructor
  · intro h
    unfold scriptPath at h
    cases hscript : e.script with
    | text named =>
      rw [hscript] at h
      cases h
      exact .named hscript
    | unset | bytes =>
      rw [hscript] at h
      cases hpackage : e.package with
      | text directory =>
        rw [hpackage] at h
        cases h
        exact .usual (by simp [hscript]) hpackage
      | unset | bytes =>
        rw [hpackage] at h
        cases h
  · intro h
    cases h with
    | named hscript => simp [scriptPath, hscript]
    | usual hscript hpackage =>
      cases hvariable : e.script with
      | text named => exact absurd hvariable (hscript named)
      | unset | bytes => simp [scriptPath, hvariable, hpackage, LinkerScript.fileName]

/-- Only one path is chosen. -/
theorem Chooses.unique {other : String} (h : e.Chooses path) (hother : e.Chooses other) :
    path = other := by
  have hsame := (scriptPath_eq_ok_iff.2 h).symm.trans (scriptPath_eq_ok_iff.2 hother)
  exact Except.ok.inj hsame

/-- No path that is printed has a newline in it. -/
structure OnLines (canonicalize : String → Except ResolveError String) (e : Environment) :
    Prop where
  chosen : ∀ path, e.Chooses path → '\n' ∉ path.toList
  canonical : ∀ path canonical, e.Chooses path → canonicalize path = .ok canonical →
    '\n' ∉ canonical.toList

/-- The path chosen is the only one to look at. -/
theorem Chooses.onLines {File : Type} {canonicalize : String → Except ResolveError String}
    {find : String → Except ResolveError File} {pathTo : File → String}
    (hfiles : Canonicalizes canonicalize find pathTo) (h : e.Chooses path)
    (hpath : '\n' ∉ path.toList)
    (hfound : ∀ file, find path = .ok file → '\n' ∉ (pathTo file).toList) :
    OnLines canonicalize e where
  chosen other hother := by rwa [hother.unique h]
  canonical other canonical hother hcanonical := by
    rw [hother.unique h] at hcanonical
    obtain ⟨file, hfile, rfl⟩ := hfiles.exists_file hcanonical
    exact hfound file hfile

end Environment

/-! ### Publishing -/

section Publish

variable {canonicalize : String → Except ResolveError String} {e : Environment}
  {path canonical : String}

/-- Without a path nothing is said of the script. -/
theorem publish_unformed (h : ∀ path, ¬e.Chooses path) :
    ∃ cause, publish canonicalize e = (said [] [], .error cause) := by
  cases hscript : e.scriptPath with
  | ok path => exact absurd (Environment.scriptPath_eq_ok_iff.1 hscript) (h path)
  | error cause => exact ⟨cause, by simp [publish, hscript, said]⟩

/-- A path that leads nowhere has been said. -/
theorem publish_unresolved {cause : ResolveError} (hpath : e.Chooses path)
    (h : canonicalize path = .error cause) :
    publish canonicalize e = (said [path] [], .error (.unresolved cause)) := by
  simp [publish, Environment.scriptPath_eq_ok_iff.2 hpath, h, said]

theorem publish_resolved (hpath : e.Chooses path) (h : canonicalize path = .ok canonical) :
    publish canonicalize e = (said [path] [canonical], .ok canonical) := by
  simp [publish, Environment.scriptPath_eq_ok_iff.2 hpath, h, said]

end Publish

/-- What comes of publishing the script: what is printed, and what the outcome is. -/
structure Publishes (canonicalize : String → Except ResolveError String) (e : Environment)
    (text : String) (outcome : Except PublicationError String) : Prop where
  succeeds_iff : (∃ canonical, outcome = .ok canonical) ↔
    ∃ path canonical, e.Chooses path ∧ canonicalize path = .ok canonical
  succeeded : ∀ path canonical, e.Chooses path → canonicalize path = .ok canonical →
    outcome = .ok canonical ∧ Announces text [path] [canonical] ∧
      Path.isAbsolute canonical = true ∧ canonicalize canonical = .ok canonical
  /-- A path that leads nowhere is still watched. -/
  unresolved : ∀ path cause, e.Chooses path → canonicalize path = .error cause →
    outcome = .error (.unresolved cause) ∧ Announces text [path] []
  /-- Without a path there is none to watch. -/
  unformed : (∀ path, ¬e.Chooses path) →
    (∃ cause, outcome = .error cause) ∧ Announces text [] []

section Publishes

variable {File : Type} {canonicalize : String → Except ResolveError String}
  {find : String → Except ResolveError File} {pathTo : File → String} {e : Environment}

/-- What is printed on the way to a canonical path announces it. -/
theorem announces_canonical (hlines : e.OnLines canonicalize) {path canonical : String}
    (hpath : e.Chooses path) (hcanonical : canonicalize path = .ok canonical) :
    Announces (Directive.printed (said [path] [canonical])) [path] [canonical] := by
  refine announces_said (List.forall_mem_singleton.2 (hlines.chosen path hpath)) ?_
  exact List.forall_mem_singleton.2 (hlines.canonical path canonical hpath hcanonical)

theorem publish_publishes (hfiles : Canonicalizes canonicalize find pathTo)
    (hlines : e.OnLines canonicalize) :
    Publishes canonicalize e (Directive.printed (publish canonicalize e).1)
      (publish canonicalize e).2 where
  succeeds_iff := by
    constructor
    · rintro ⟨canonical, houtcome⟩
      by_cases hchosen : ∃ path, e.Chooses path
      · obtain ⟨path, hpath⟩ := hchosen
        cases hresolved : canonicalize path with
        | ok found => exact ⟨path, found, hpath, hresolved⟩
        | error cause =>
          rw [publish_unresolved hpath hresolved] at houtcome
          cases houtcome
      · have hunformed : ∃ cause, publish canonicalize e = (said [] [], .error cause) :=
          publish_unformed (not_exists.1 hchosen)
        obtain ⟨cause, hfailed⟩ := hunformed
        rw [hfailed] at houtcome
        cases houtcome
    · rintro ⟨path, canonical, hpath, hresolved⟩
      exact ⟨canonical, by rw [publish_resolved hpath hresolved]⟩
  succeeded path canonical hpath hresolved := by
    rw [publish_resolved hpath hresolved]
    exact ⟨rfl, announces_canonical hlines hpath hresolved, hfiles.isAbsolute_canonical hresolved,
      hfiles.canonicalize_canonical hresolved⟩
  unresolved path cause hpath hresolved := by
    rw [publish_unresolved hpath hresolved]
    exact ⟨rfl, announces_said (List.forall_mem_singleton.2 (hlines.chosen path hpath)) nofun⟩
  unformed hchosen := by
    have hunformed : ∃ cause, publish canonicalize e = (said [] [], .error cause) :=
      publish_unformed hchosen
    obtain ⟨cause, hfailed⟩ := hunformed
    rw [hfailed]
    exact ⟨⟨cause, rfl⟩, announces_said nofun nofun⟩

/-- **The script is published by its canonical path**, in both copies or not at all: the path
that the variables give is watched as they give it, and whatever paths lead to a file, from
whatever directory they are walked, it is published by the same path. -/
theorem publish_announces (hfiles : Canonicalizes canonicalize find pathTo)
    (hlines : e.OnLines canonicalize) :
    Publishes canonicalize e (Directive.printed (publish canonicalize e).1)
        (publish canonicalize e).2 ∧
      ∀ canonicalize' find' e', Canonicalizes canonicalize' find' pathTo →
        Environment.OnLines canonicalize' e' →
        ∀ path path' file, e.Chooses path → e'.Chooses path' →
          find path = .ok file → find' path' = .ok file →
          ∃ canonical, (publish canonicalize e).2 = .ok canonical ∧
            (publish canonicalize' e').2 = .ok canonical ∧
            Announces (Directive.printed (publish canonicalize e).1) [path] [canonical] ∧
            Announces (Directive.printed (publish canonicalize' e').1) [path'] [canonical] := by
  refine ⟨publish_publishes hfiles hlines, ?_⟩
  intro canonicalize' find' e' hfiles' hlines' path path' file hpath hpath' hfile hfile'
  have hresolved := hfiles.canonicalize_of_find hfile
  have hresolved' := hfiles'.canonicalize_of_find hfile'
  rw [publish_resolved hpath hresolved, publish_resolved hpath' hresolved']
  exact ⟨pathTo file, rfl, rfl, announces_canonical hlines hpath hresolved,
    announces_canonical hlines' hpath' hresolved'⟩

end Publishes

/-- The usual script, the same one by way of a link and from another directory, and a script that
is not there. -/
theorem publish_announces_linked :
    let t : FileTree := ⟨[(["boot"], .directory), (["boot", "kernel.ld"], .file),
      (["work"], .directory), (["work", "scripts"], .link "../boot")]⟩
    let usual : Environment := { script := .unset, package := .text "/boot" }
    let linked : Environment := { script := .text "scripts/./kernel.ld", package := .unset }
    let missing : Environment := { script := .text "kernel.ld", package := .text "/boot" }
    Announces (Directive.printed (publish (t.canonicalize []) usual).1)
        ["/boot/kernel.ld"] ["/boot/kernel.ld"] ∧
      Announces (Directive.printed (publish (t.canonicalize ["work"]) linked).1)
        ["scripts/./kernel.ld"] ["/boot/kernel.ld"] ∧
      (publish (t.canonicalize ["work"]) missing).2 = .error (.unresolved .notFound) ∧
      Announces (Directive.printed (publish (t.canonicalize ["work"]) missing).1)
        ["kernel.ld"] [] := by
  intro t usual linked missing
  have hboot : t.look [] "boot" = .ok .directory := by decide
  have hkernel : t.look ["boot"] "kernel.ld" = .ok .file := by decide
  have hwork : t.look [] "work" = .ok .directory := by decide
  have hlink : t.look ["work"] "scripts" = .ok (.link "../boot") := by decide
  have habsent : t.look ["work"] "kernel.ld" = .error .notFound := by decide
  have hplace : t.Direct ["boot", "kernel.ld"] :=
    .under (.under .root (by decide) hboot nofun) (by decide) hkernel nofun
  have hfiles := FileTree.canonicalizes (t := t) .root
  have hbelow := FileTree.canonicalizes (t := t) (.under .root (by decide) hwork nofun)
  have hplaced : '\n' ∉ (Place.path ["boot", "kernel.ld"]).toList := by decide
  -- The usual path is canonical itself; the other one goes by the link and back out of `work`.
  have husual : t.resolve [] "/boot/kernel.ld" = .ok ["boot", "kernel.ld"] :=
    hplace.resolve_path []
  have hlinked : t.resolve ["work"] "scripts/./kernel.ld" = .ok ["boot", "kernel.ld"] := by
    have hnames : Path.names "scripts/./kernel.ld" = ["scripts", ".", "kernel.ld"] := by decide
    have htarget : Path.names "../boot" = ["..", "boot"] := by decide
    simp [FileTree.resolve, FileTree.walk, FileTree.linkLimit, FileTree.origin,
      FileTree.needsDirectory, Path.isAbsolute, hnames, htarget, hlink, hboot, hkernel]
  have hmissing : t.resolve ["work"] "kernel.ld" = .error .notFound := by
    have hnames : Path.names "kernel.ld" = ["kernel.ld"] := by decide
    simp [FileTree.resolve, FileTree.walk, FileTree.origin, Path.isAbsolute, hnames, habsent]
  have hchosen : usual.Chooses "/boot/kernel.ld" := by
    have hjoin : Path.join "/boot" "kernel.ld" = "/boot/kernel.ld" := by decide
    rw [← hjoin]
    exact .usual (fun _ hset => by cases hset) rfl
  have hlines : usual.OnLines (t.canonicalize []) :=
    hchosen.onLines hfiles (by decide) fun place hfound => by
      rwa [← Except.ok.inj (husual.symm.trans hfound)]
  have hlinkedChosen : linked.Chooses "scripts/./kernel.ld" := .named rfl
  have hlinkedLines : linked.OnLines (t.canonicalize ["work"]) :=
    hlinkedChosen.onLines hbelow (by decide) fun place hfound => by
      rwa [← Except.ok.inj (hlinked.symm.trans hfound)]
  have hmissingChosen : missing.Chooses "kernel.ld" := .named rfl
  have hmissingLines : missing.OnLines (t.canonicalize ["work"]) :=
    hmissingChosen.onLines hbelow (by decide) fun place hfound => by
      cases hmissing.symm.trans hfound
  obtain ⟨hpublishes, hsame⟩ := publish_announces hfiles hlines
  obtain ⟨canonical, hcanonical, -, hsaid, hlinkedSaid⟩ := hsame _ _ _ hbelow hlinkedLines _ _ _
    hchosen hlinkedChosen husual hlinked
  have hpath : canonical = "/boot/kernel.ld" := by
    have hresolved := (hpublishes.succeeded _ _ hchosen (hfiles.canonicalize_of_find husual)).1
    exact Except.ok.inj (hcanonical.symm.trans hresolved)
  rw [hpath] at hsaid hlinkedSaid
  have hnowhere : t.canonicalize ["work"] "kernel.ld" = .error .notFound := by
    rw [FileTree.canonicalize, hmissing]
    rfl
  have hfailed := (publish_announces hbelow hmissingLines).1.unresolved _ _ hmissingChosen hnowhere
  exact ⟨hsaid, hlinkedSaid, hfailed⟩

end Handoff
