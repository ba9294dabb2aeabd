/-!
# Fields with a delimiter between them

`join` writes a delimiter between texts and `split` cuts a text at every
delimiter.  Cutting loses nothing (`join_split`), and texts without the delimiter
are found again (`split_join`).
-/

namespace GameGateway.Fields

variable {α : Type} [DecidableEq α]

omit [DecidableEq α] in
/-- The fields with the delimiter between each two. -/
def join (delimiter : α) : List (List α) → List α
  | [] => []
  | [field] => field
  | field :: rest => field ++ delimiter :: join delimiter rest

/-- The fields between the delimiters; there is always at least one. -/
def split (delimiter : α) : List α → List (List α)
  | [] => [[]]
  | a :: rest =>
      if a = delimiter then [] :: split delimiter rest
      else
        match split delimiter rest with
        | [] => [[a]]
        | field :: fields => (a :: field) :: fields

theorem split_ne_nil (delimiter : α) (items : List α) : split delimiter items ≠ [] := by
  cases items with
  | nil => simp [split]
  | cons a rest =>
      unfold split
      split
      · simp
      · split <;> simp

theorem join_split (delimiter : α) (items : List α) :
    join delimiter (split delimiter items) = items := by
  induction items with
  | nil => rfl
  | cons a rest ih =>
      unfold split
      have hne := split_ne_nil delimiter rest
      by_cases h : a = delimiter
      · subst h
        cases hs : split a rest with
        | nil => exact absurd hs hne
        | cons field fields => rw [hs] at ih; simp [join, ih]
      · simp only [h, ↓reduceIte]
        cases hs : split delimiter rest with
        | nil => exact absurd hs hne
        | cons field fields =>
            rw [hs] at ih
            cases fields with
            | nil => simp_all [join]
            | cons next others => simp_all [join]

private theorem split_append (delimiter : α) (field rest : List α) (h : delimiter ∉ field) :
    split delimiter (field ++ delimiter :: rest) = field :: split delimiter rest := by
  induction field with
  | nil => simp [split]
  | cons a field ih =>
      simp only [List.mem_cons, not_or] at h
      simp [split, Ne.symm h.1, ih h.2]

private theorem split_of_notMem (delimiter : α) (field : List α) (h : delimiter ∉ field) :
    split delimiter field = [field] := by
  induction field with
  | nil => rfl
  | cons a field ih =>
      simp only [List.mem_cons, not_or] at h
      simp [split, Ne.symm h.1, ih h.2]

theorem split_join (delimiter : α) {fields : List (List α)} (hne : fields ≠ [])
    (h : ∀ field ∈ fields, delimiter ∉ field) :
    split delimiter (join delimiter fields) = fields := by
  induction fields with
  | nil => exact absurd rfl hne
  | cons field rest ih =>
      have hfield := h field (by simp)
      cases rest with
      | nil => exact split_of_notMem delimiter field hfield
      | cons next others =>
          rw [join, split_append delimiter field _ hfield]
          · rw [ih (by simp) fun f hf => h f (by simp [hf])]
          · simp

end GameGateway.Fields
