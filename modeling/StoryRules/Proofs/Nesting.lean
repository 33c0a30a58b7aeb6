/-!
# Places in nested data

A part of nested data has a place: the numbers of the parts that lead to it, from the outside in.  In an
expression these are the parts of its composites; in a list of effects an effect of the list, an entry of its
loot table, an effect of that entry, and so on.
-/

namespace StoryRules

/-- A part with its place. -/
abbrev Located (β : Type) : Type := List Nat × β

namespace Located

variable {β : Type} {k : Nat} {parts parts' : List (Located β)}

/-- The parts of the part with a number, each with the way through that part. -/
def within (k : Nat) (parts : List (Located β)) : List (Located β) :=
  parts.map fun part => (k :: part.1, part.2)

@[simp]
theorem map_snd_within (k : Nat) (parts : List (Located β)) : (within k parts).map Prod.snd = parts.map Prod.snd := by
  unfold within
  rw [List.map_map]
  rfl

theorem within_sublist (h : parts.Sublist parts') (k : Nat) : (within k parts).Sublist (within k parts') :=
  h.map _

theorem mem_within {place : List Nat} {b : β} :
    (place, b) ∈ within k parts ↔ ∃ tail, place = k :: tail ∧ (tail, b) ∈ parts := by
  simp only [within, List.mem_map, Prod.mk.injEq, Prod.exists]
  constructor
  · rintro ⟨tail, _, hmem, rfl, rfl⟩
    exact ⟨tail, rfl, hmem⟩
  · rintro ⟨tail, rfl, hmem⟩
    exact ⟨tail, b, hmem, rfl, rfl⟩

/-- What parts list that are numbered from `k` on is listed by one of them, at a place that starts with its
number. -/
theorem mem_numbered {γ : Type} {list : γ → List (Located β)} {listFrom : Nat → List γ → List (Located β)}
    (hnil : ∀ k, listFrom k [] = [])
    (hcons : ∀ k a rest, listFrom k (a :: rest) = within k (list a) ++ listFrom (k + 1) rest)
    {whole : List γ} {place : List Nat} {b : β} : (place, b) ∈ listFrom k whole ↔
      ∃ i a tail, whole[i]? = some a ∧ place = (k + i) :: tail ∧ (tail, b) ∈ list a := by
  induction whole generalizing k with
  | nil =>
    rw [hnil]
    exact iff_of_false List.not_mem_nil fun ⟨i, a, tail, hi, _⟩ => nomatch hi
  | cons a rest ih =>
    rw [hcons, List.mem_append, mem_within, ih]
    constructor
    · rintro (⟨tail, rfl, hmem⟩ | ⟨i, a', tail, hi, rfl, hmem⟩)
      · exact ⟨0, a, tail, rfl, rfl, hmem⟩
      · exact ⟨i + 1, a', tail, hi, by rw [Nat.add_right_comm, Nat.add_assoc], hmem⟩
    · rintro ⟨i, a', tail, hi, rfl, hmem⟩
      cases i with
      | zero =>
        obtain rfl := Option.some.inj hi
        exact .inl ⟨tail, rfl, hmem⟩
      | succ i => exact .inr ⟨i, a', tail, hi, by rw [Nat.add_right_comm, Nat.add_assoc], hmem⟩

end Located

end StoryRules
