import Mathlib

namespace Splitting
set_option autoImplicit true

variable {α : Type u} [BEq α] [LawfulBEq α] {x : α} {xs : List α}

/-- The first piece ends at the first separator, the others are those of what follows it. -/
theorem splitOn_of_dropWhile_nil (h : xs.dropWhile (· != x) = []) : xs.splitOn x = [xs] := by
  apply List.splitOn_eq_singleton
  intro hmem
  have hall := List.dropWhile_eq_nil_iff.1 h x hmem
  simp at hall

theorem splitOn_of_dropWhile_cons (h : xs.dropWhile (· != x) = y :: rest) :
    xs.splitOn x = xs.takeWhile (· != x) :: rest.splitOn x := by
  have hsep : y = x := by
    have hhead := List.head?_dropWhile_not (· != x) xs
    rw [h] at hhead
    simpa using hhead
  have hsplit : xs = xs.takeWhile (· != x) ++ x :: rest := by
    have happend := @List.takeWhile_append_dropWhile _ (· != x) xs
    rw [h, hsep] at happend
    exact happend.symm
  have hnot : x ∉ xs.takeWhile (· != x) := by
    intro hmem
    have hall := List.mem_takeWhile_imp hmem
    simp at hall
  conv_lhs => rw [hsplit]
  exact List.splitOn_append_cons_self_of_not_mem hnot _

/-- The pieces between separators that are not empty. -/
def words (x : α) (xs : List α) : List (List α) := (xs.splitOn x).filter fun piece => !piece.isEmpty

theorem words_append_cons (x : α) (xs ys : List α) :
    words x (xs ++ x :: ys) = words x xs ++ words x ys := by
  unfold words
  rw [List.splitOn_append_cons_self, List.filter_append]

theorem words_cons_self (x : α) (xs : List α) : words x (x :: xs) = words x xs := by
  have hsplit := words_append_cons x [] xs
  simpa [words] using hsplit

theorem words_dropWhile (x : α) (xs : List α) : words x (xs.dropWhile (· == x)) = words x xs := by
  induction xs with
  | nil => rfl
  | cons y ys ih =>
    by_cases hy : y = x
    · subst hy
      have hdrop : (y :: ys).dropWhile (· == y) = ys.dropWhile (· == y) :=
        List.dropWhile_cons_of_pos (beq_self_eq_true y)
      rw [hdrop, ih, words_cons_self]
    · rw [List.dropWhile_cons_of_neg (by simpa using hy)]

theorem words_of_dropWhile_nil (hne : xs ≠ []) (h : xs.dropWhile (· != x) = []) :
    words x xs = [xs] := by
  unfold words
  rw [splitOn_of_dropWhile_nil h, List.filter_singleton]
  cases xs with
  | nil => exact absurd rfl hne
  | cons y ys => rfl

theorem words_of_dropWhile_cons (hne : xs.takeWhile (· != x) ≠ [])
    (h : xs.dropWhile (· != x) = y :: rest) :
    words x xs = xs.takeWhile (· != x) :: words x rest := by
  unfold words
  rw [splitOn_of_dropWhile_cons h]
  generalize xs.takeWhile (· != x) = piece at *
  cases piece with
  | nil => exact absurd rfl hne
  | cons z zs => rfl

theorem words_eq_cons (hne : xs.takeWhile (· != x) ≠ []) :
    words x xs = xs.takeWhile (· != x) :: words x (xs.dropWhile (· != x)) := by
  have hwhole := @List.takeWhile_append_dropWhile _ (· != x) xs
  cases h : xs.dropWhile (· != x) with
  | nil =>
    rw [h, List.append_nil] at hwhole
    rw [hwhole] at hne ⊢
    exact words_of_dropWhile_nil hne h
  | cons y rest =>
    have hhead := List.head?_dropWhile_not (· != x) xs
    rw [h] at hhead
    obtain rfl : y = x := by simpa using hhead
    rw [words_of_dropWhile_cons hne h, words_cons_self]

theorem words_of_not_mem (hne : xs ≠ []) (hplain : x ∉ xs) : words x xs = [xs] := by
  apply words_of_dropWhile_nil hne
  rw [List.dropWhile_eq_nil_iff]
  intro y hmem
  rw [bne_iff_ne]
  rintro rfl
  exact hplain hmem

/-- The words of joined pieces are those of each piece. -/
theorem words_intercalate_flatMap (x : α) (pieces : List (List α)) :
    words x ([x].intercalate pieces) = pieces.flatMap (words x) := by
  induction pieces with
  | nil => simp [words, List.intercalate]
  | cons piece pieces ih =>
    rw [List.flatMap_cons, ← ih]
    cases pieces with
    | nil => simp [words, List.intercalate]
    | cons second pieces =>
      rw [List.intercalate_cons_of_ne_nil (List.cons_ne_nil _ _), List.append_assoc,
        List.singleton_append, words_append_cons]

omit [LawfulBEq α] in
theorem flatMap_words {pieces : List (List α)} (h : ∀ piece ∈ pieces, words x piece = [piece]) :
    pieces.flatMap (words x) = pieces := by
  induction pieces with
  | nil => rfl
  | cons piece pieces ih =>
    rw [List.forall_mem_cons] at h
    rw [List.flatMap_cons, h.1, ih h.2]
    rfl

theorem words_intercalate {pieces : List (List α)} (hplain : ∀ piece ∈ pieces, x ∉ piece)
    (hne : ∀ piece ∈ pieces, piece ≠ []) : words x ([x].intercalate pieces) = pieces := by
  rw [words_intercalate_flatMap]
  apply flatMap_words
  intro piece hmem
  exact words_of_not_mem (hne piece hmem) (hplain piece hmem)

omit [BEq α] [LawfulBEq α] in
theorem intercalate_concat (x : α) (pieces : List (List α)) (piece : List α) :
    [x].intercalate (pieces ++ [piece]) =
      (if pieces = [] then [] else [x].intercalate pieces ++ [x]) ++ piece := by
  induction pieces with
  | nil => simp
  | cons first pieces ih =>
    rw [if_neg (List.cons_ne_nil _ _), List.cons_append,
      List.intercalate_cons_of_ne_nil (by simp), ih]
    cases pieces with
    | nil => simp
    | cons second pieces => simp

/-- The pieces that a separator ends, and what is left behind the last separator, if anything. -/
def lines (x : α) (xs : List α) : List (List α) :=
  if (xs.splitOn x).getLast?.any List.isEmpty then (xs.splitOn x).dropLast else xs.splitOn x

omit [LawfulBEq α] in
theorem lines_nil (x : α) : lines x [] = [] := by
  simp [lines]

theorem lines_of_dropWhile_nil (hne : xs ≠ []) (h : xs.dropWhile (· != x) = []) :
    lines x xs = [xs] := by
  unfold lines
  rw [splitOn_of_dropWhile_nil h]
  cases xs with
  | nil => exact absurd rfl hne
  | cons y ys => rfl

theorem lines_of_dropWhile_cons (h : xs.dropWhile (· != x) = y :: rest) :
    lines x xs = xs.takeWhile (· != x) :: lines x rest := by
  unfold lines
  rw [splitOn_of_dropWhile_cons h]
  have hne := List.splitOn_ne_nil x rest
  generalize rest.splitOn x = pieces at *
  cases pieces with
  | nil => exact absurd rfl hne
  | cons piece pieces =>
    rw [List.getLast?_cons_cons, List.dropLast_cons_cons]
    split <;> rfl

omit [LawfulBEq α] in
theorem countP_splitOn (p : List α → Bool) (hempty : p [] = false) (xs : List α) :
    (xs.splitOn x).countP p = (lines x xs).countP p := by
  unfold lines
  split
  · rename_i hlast
    obtain ⟨piece, hpiece, hnil⟩ := (Option.any_eq_true _ _).1 hlast
    rw [List.isEmpty_iff] at hnil
    subst hnil
    conv_lhs => rw [← List.dropLast_append_getLast? [] hpiece]
    rw [List.countP_append, List.countP_singleton, hempty]
    rfl
  · rfl

/-- A list that is complete as far as it goes: nothing is left behind its last separator. -/
def Ended (x : α) (xs : List α) : Prop := xs = [] ∨ ∃ body, xs = body ++ [x]

theorem lines_append_cons (x : α) (xs ys : List α) :
    lines x (xs ++ x :: ys) = xs.splitOn x ++ lines x ys := by
  unfold lines
  have hne := List.splitOn_ne_nil x ys
  rw [List.splitOn_append_cons_self, List.getLast?_append_of_ne_nil _ hne,
    List.dropLast_append_of_ne_nil hne]
  split <;> rfl

theorem lines_append (h : Ended x xs) (ys : List α) :
    lines x (xs ++ ys) = lines x xs ++ lines x ys := by
  obtain rfl | ⟨body, rfl⟩ := h
  · rw [lines_nil, List.nil_append, List.nil_append]
  · rw [List.append_assoc, List.singleton_append, lines_append_cons, lines_append_cons, lines_nil,
      List.append_nil]

end Splitting
