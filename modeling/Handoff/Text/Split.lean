/-
Cutting text at a mark.
-/
namespace Handoff

namespace Text

/-- The parts of a text between the places where a mark stands: one more part than
there are marks, some of them empty where marks meet. -/
def splitOn (mark : Char) : List Char → List (List Char)
  | [] => [[]]
  | c :: cs =>
    if c = mark then [] :: splitOn mark cs
    else match splitOn mark cs with
      | [] => [[c]]
      | part :: parts => (c :: part) :: parts

/-- The text before the first mark and the text after it, if there is a mark. -/
def cut? (mark : Char) : List Char → Option (List Char × List Char)
  | [] => none
  | c :: cs =>
    if c = mark then some ([], cs)
    else (cut? mark cs).map fun halves => (c :: halves.1, halves.2)

/-! ### Cutting what was put together -/

section Cut

variable {mark : Char}

theorem splitOn_ne_nil (cs : List Char) : splitOn mark cs ≠ [] := by
  cases cs with
  | nil => simp [splitOn]
  | cons c cs =>
    rw [splitOn]
    split
    · simp
    · split <;> simp

/-- A mark cuts the parts before it from the parts behind it. -/
theorem splitOn_append (cs ds : List Char) :
    splitOn mark (cs ++ mark :: ds) = splitOn mark cs ++ splitOn mark ds := by
  induction cs with
  | nil => simp [splitOn]
  | cons c cs ih =>
    rw [List.cons_append, splitOn, splitOn, ih]
    split
    · rfl
    · cases hparts : splitOn mark cs with
      | nil => exact absurd hparts (splitOn_ne_nil cs)
      | cons part parts => rfl

/-- Without a mark the text is the only part. -/
theorem splitOn_of_not_mem {cs : List Char} (h : mark ∉ cs) : splitOn mark cs = [cs] := by
  induction cs with
  | nil => rfl
  | cons c cs ih =>
    have hne : c ≠ mark := fun heq => h (heq ▸ List.mem_cons_self)
    have hrest : mark ∉ cs := fun hmem => h (List.mem_cons_of_mem c hmem)
    rw [splitOn, if_neg hne, ih hrest]

/-- Lines that each end with a mark are cut apart behind it, with nothing behind the last. -/
theorem splitOn_flatMap {α : Type} {line : α → List Char} {as : List α}
    (h : ∀ a ∈ as, mark ∉ line a) :
    splitOn mark (as.flatMap fun a => line a ++ [mark]) = as.map line ++ [[]] := by
  induction as with
  | nil => rfl
  | cons a as ih =>
    have hrest := ih fun b hb => h b (List.mem_cons_of_mem a hb)
    rw [List.flatMap_cons, List.append_assoc, List.singleton_append, splitOn_append,
      splitOn_of_not_mem (h a List.mem_cons_self), hrest]
    rfl

/-- No part has a mark in it. -/
theorem not_mem_of_mem_splitOn {cs part : List Char} (h : part ∈ splitOn mark cs) :
    mark ∉ part := by
  induction cs generalizing part with
  | nil =>
    rw [splitOn, List.mem_singleton] at h
    simp [h]
  | cons c cs ih =>
    rw [splitOn] at h
    by_cases hc : c = mark
    · rw [if_pos hc] at h
      rcases List.mem_cons.1 h with rfl | hrest
      · exact List.not_mem_nil
      · exact ih hrest
    · rw [if_neg hc] at h
      cases hparts : splitOn mark cs with
      | nil => exact absurd hparts (splitOn_ne_nil cs)
      | cons first parts =>
        rw [hparts] at h ih
        rcases List.mem_cons.1 h with rfl | hrest
        · have hfirst := ih List.mem_cons_self
          simp [hfirst, Ne.symm hc]
        · exact ih (List.mem_cons_of_mem first hrest)

/-- Parts that were put together with marks between them are found again. -/
theorem splitOn_intercalate {parts : List (List Char)} (hne : parts ≠ [])
    (h : ∀ part ∈ parts, mark ∉ part) : splitOn mark ([mark].intercalate parts) = parts := by
  induction parts with
  | nil => exact absurd rfl hne
  | cons part rest ih =>
    have hpart := splitOn_of_not_mem (h part List.mem_cons_self)
    cases rest with
    | nil => rwa [List.intercalate_singleton]
    | cons next rest =>
      have hrest := ih (List.cons_ne_nil next rest) fun p hp => h p (List.mem_cons_of_mem part hp)
      rw [List.intercalate_cons_cons, List.append_assoc, List.singleton_append, splitOn_append,
        hpart, hrest]
      rfl

/-- The first mark is the one behind a text that has none. -/
theorem cut?_append {cs : List Char} (h : mark ∉ cs) (ds : List Char) :
    cut? mark (cs ++ mark :: ds) = some (cs, ds) := by
  induction cs with
  | nil => simp [cut?]
  | cons c cs ih =>
    have hne : c ≠ mark := fun heq => h (heq ▸ List.mem_cons_self)
    have hrest : mark ∉ cs := fun hmem => h (List.mem_cons_of_mem c hmem)
    rw [List.cons_append, cut?, if_neg hne, ih hrest]
    rfl

end Cut

end Text

end Handoff
