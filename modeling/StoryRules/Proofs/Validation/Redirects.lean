import Mathlib.Data.Finset.Card
import StoryRules.Proofs.Table
import StoryRules.Validation.Redirects
import StoryRules.Validation.References

/-!
# Following redirects

Redirects that are followed without end run into a circle.  With as many ids as there are redirects to
follow in a row some id has to come twice, and from then on they go round; the search for circles, which
stops at the first id that it meets again, finds one just if redirects can be followed without end.

    Redirects.cycles t ≠ [] ↔ ∃ start, Redirects.Endless t.get? start      (cycles_ne_nil)
-/

namespace StoryRules

namespace Redirects

/-! ## Redirects in a row -/

/-- Where some redirects in a row lead, if there are as many. -/
def after (next : String → Option String) : Nat → String → Option String
  | 0, id => some id
  | k + 1, id => (next id).bind (after next k)

/-- Redirects from an id can be followed for ever. -/
def Endless (next : String → Option String) (id : String) : Prop :=
  ∀ k, (after next k id).isSome = true

variable {next : String → Option String} {id : String}

theorem after_of_next {target : String} (h : next id = some target) (k : Nat) :
    after next (k + 1) id = after next k target := by
  rw [after, h, Option.bind_some]

theorem after_add (m n : Nat) : after next (m + n) id = (after next m id).bind (after next n) := by
  induction m generalizing id with
  | zero => rw [Nat.zero_add, after, Option.bind_some]
  | succ m ih =>
    rw [Nat.succ_add, after, after, Option.bind_assoc]
    exact congrArg (next id).bind (funext fun _ => ih)

theorem after_succ (m : Nat) : after next (m + 1) id = (after next m id).bind next := by
  rw [after_add]
  refine congrArg (after next m id).bind (funext fun target => ?_)
  show (next target).bind some = next target
  cases next target <;> rfl

theorem isSome_after_of_le {m n : Nat} (hle : m ≤ n) (h : (after next n id).isSome = true) :
    (after next m id).isSome = true := by
  obtain ⟨d, rfl⟩ := Nat.exists_eq_add_of_le hle
  rw [after_add] at h
  exact Option.isSome_of_isSome_bind h

/-- Redirects that come back to where they were go on for ever. -/
theorem endless_of_meet {i j : Nat} {meeting : String} (hlt : j < i)
    (hi : after next i id = some meeting) (hj : after next j id = some meeting) :
    Endless next id := by
  intro k
  induction k using Nat.strongRecOn with
  | ind k ih =>
    rcases Nat.le_total k i with hle | hle
    · exact isSome_after_of_le hle (by rw [hi]; rfl)
    · obtain ⟨d, rfl⟩ := Nat.exists_eq_add_of_le hle
      have hback : after next (i + d) id = after next (j + d) id := by
        rw [after_add, after_add, hi, hj]
      rw [hback]
      exact ih (j + d) (by omega)

/-- Among as many ids as there are redirects in a row, one comes twice. -/
theorem endless_of_long {ids : List String}
    (hids : ∀ k target, after next k id = some target → target ∈ ids)
    (h : (after next ids.length id).isSome = true) : Endless next id := by
  let reached : Nat → String := fun k => (after next k id).getD ""
  have hreached : ∀ k ≤ ids.length, after next k id = some (reached k) := by
    intro k hk
    obtain ⟨target, htarget⟩ := Option.isSome_iff_exists.1 (isSome_after_of_le hk h)
    rw [htarget]
    exact congrArg some (by simp [reached, htarget])
  have hcard : ids.toFinset.card < (Finset.range (ids.length + 1)).card := by
    rw [Finset.card_range]
    exact Nat.lt_succ_of_le ids.toFinset_card_le
  have hmaps : ∀ k ∈ Finset.range (ids.length + 1), reached k ∈ ids.toFinset := by
    intro k hk
    rw [List.mem_toFinset]
    exact hids k _ (hreached k (Nat.le_of_lt_succ (Finset.mem_range.1 hk)))
  obtain ⟨i, hi, j, hj, hne, hmeet⟩ := Finset.exists_ne_map_eq_of_card_lt_of_maps_to hcard hmaps
  have hi' := hreached i (Nat.le_of_lt_succ (Finset.mem_range.1 hi))
  have hj' := hreached j (Nat.le_of_lt_succ (Finset.mem_range.1 hj))
  rcases Nat.lt_or_gt_of_ne hne with hlt | hlt
  · exact endless_of_meet hlt hj' (hmeet ▸ hi')
  · exact endless_of_meet hlt hi' (hmeet ▸ hj')

/-! ## Searching for circles -/

variable {t : Table String} {start : String}

/-- The ids on the way from a start to where redirects have been followed to. -/
structure Walked (t : Table String) (start : String) (path : List String) (current : String) : Prop where
  reached : after t.get? path.length start = some current
  passed : ∀ id ∈ path, ∃ j, j < path.length ∧ after t.get? j start = some id
  nodup : path.Nodup
  keys : path ⊆ t.keys

theorem Walked.nil (t : Table String) (start : String) : Walked t start [] start :=
  ⟨rfl, by simp, List.nodup_nil, by simp⟩

theorem Walked.step {path : List String} {current target : String} (h : Walked t start path current)
    (hnew : current ∉ path) (htarget : t.get? current = some target) :
    Walked t start (path ++ [current]) target := by
  refine ⟨?reached, ?passed, ?nodup, ?keys⟩
  case reached =>
    rw [List.length_append, List.length_singleton, after_succ, h.reached]
    exact htarget
  case passed =>
    intro id hid
    rw [List.length_append, List.length_singleton]
    rcases List.mem_append.1 hid with hid | hid
    · obtain ⟨j, hj, hreach⟩ := h.passed id hid
      exact ⟨j, Nat.lt_succ_of_lt hj, hreach⟩
    · rw [List.mem_singleton.1 hid]
      exact ⟨path.length, Nat.lt_succ_self _, h.reached⟩
  case nodup =>
    refine List.nodup_append.2 ⟨h.nodup, List.nodup_singleton current, fun a ha b hb => ?_⟩
    rw [List.mem_singleton.1 hb]
    exact fun heq => hnew (heq ▸ ha)
  case keys =>
    intro id hid
    rcases List.mem_append.1 hid with hid | hid
    · exact h.keys hid
    · rw [List.mem_singleton.1 hid]
      exact List.mem_map_of_mem (Table.mem_of_get? htarget)

theorem Walked.length_le {path : List String} {current : String} (h : Walked t start path current) :
    path.length ≤ t.length := by
  rw [← List.length_map Prod.fst]
  exact (h.nodup.subperm h.keys).length_le

/-- Following comes back to an id on the way just if it could go on for ever: it has fuel for every
redirect, so it ends otherwise only where there is none. -/
theorem follow_isSome {fuel : Nat} : ∀ {path : List String} {current : String},
    Walked t start path current → fuel + path.length = t.length + 1 →
    ((follow t fuel path current).2.isSome = true ↔ Endless t.get? start) := by
  induction fuel with
  | zero =>
    intro path current h hfuel
    have := h.length_le
    omega
  | succ fuel ih =>
    intro path current h hfuel
    rw [follow]
    split
    · next hmet =>
      obtain ⟨j, hj, hreach⟩ := h.passed current (by simpa using hmet)
      exact iff_of_true rfl (endless_of_meet hj h.reached hreach)
    · next hnew =>
      cases htarget : t.get? current with
      | none =>
        refine iff_of_false Bool.false_ne_true fun hendless => ?_
        have hstop := hendless (path.length + 1)
        rw [after_succ, h.reached, Option.bind_some, htarget] at hstop
        cases hstop
      | some target =>
        refine ih (h.step (by simpa using hnew) htarget) ?_
        rw [List.length_append, List.length_singleton]
        omega

theorem cycleFrom?_eq_none : cycleFrom? t start = none ↔ ¬ Endless t.get? start := by
  rw [← follow_isSome (Walked.nil t start) rfl]
  unfold cycleFrom?
  rcases follow t (t.length + 1) [] start with ⟨path, _ | node⟩ <;> simp

theorem cyclesFrom_eq_nil {starts : List String} : ∀ {found : List (List String)},
    cyclesFrom t found starts = [] ↔ found = [] ∧ ∀ start ∈ starts, cycleFrom? t start = none := by
  induction starts with
  | nil => simp [cyclesFrom]
  | cons start rest ih =>
    intro found
    rw [cyclesFrom]
    cases hcycle : cycleFrom? t start with
    | none => simp [ih, hcycle]
    | some cycle =>
      have hsome : ¬ ∀ s ∈ start :: rest, cycleFrom? t s = none := by
        intro h
        rw [h start List.mem_cons_self] at hcycle
        cases hcycle
      refine iff_of_false (fun h => ?_) fun h => hsome h.2
      dsimp only at h
      split at h
      · next hmet =>
        obtain ⟨rfl, -⟩ := ih.1 h
        simp at hmet
      · obtain ⟨hfound, -⟩ := ih.1 h
        simp at hfound

/-- There are circles just if redirects can be followed for ever from somewhere. -/
theorem cycles_ne_nil : cycles t ≠ [] ↔ ∃ start, Endless t.get? start := by
  unfold cycles
  rw [Ne, cyclesFrom_eq_nil]
  constructor
  · intro h
    simp only [true_and, not_forall, List.mem_mergeSort] at h
    obtain ⟨start, -, hcycle⟩ := h
    rw [cycleFrom?_eq_none, not_not] at hcycle
    exact ⟨start, hcycle⟩
  · rintro ⟨start, hendless⟩ ⟨-, hnone⟩
    obtain ⟨target, htarget⟩ : ∃ target, t.get? start = some target := by
      have hfirst := hendless 1
      rw [after_succ] at hfirst
      exact Option.isSome_iff_exists.1 hfirst
    have hkey : start ∈ t.keys := List.mem_map_of_mem (Table.mem_of_get? htarget)
    exact cycleFrom?_eq_none.1 (hnone start (List.mem_mergeSort.2 hkey)) hendless

end Redirects

/-! ## Redirects of a story -/

variable {α : Type}

theorem Effect.firstGoto?_eq_findSome? (effects : List (Effect α)) :
    Effect.firstGoto? effects = effects.findSome? Effect.target? := by
  induction effects with
  | nil => rfl
  | cons e rest ih =>
    rw [List.findSome?_cons, ← ih]
    cases e <;> rfl

/-- A node that is passed on the way: what happens there happens on entry. -/
def Node.passage (id : String) (effects : List (Effect α)) : Node α :=
  { id, part := 1, isEnding := false, title := "", text := "", media := [], onEnter := some effects
    puzzle := none, choices := [] }

namespace Story

variable {s : Story α}

/-- The redirect of the node with an id. -/
def redirectFrom? (s : Story α) (id : String) : Option String := (s.node? id).bind s.redirect?

theorem redirect?_found {n : Node α} {target : String} (h : s.redirect? n = some target) :
    (s.node? target).isSome = true := by
  unfold redirect? at h
  split at h
  · split at h
    · next hfound =>
      cases h
      exact hfound
    · cases h
  · cases h

/-- The redirects of some nodes. -/
def redirectsOf (s : Story α) (nodes : List (Node α)) : List (String × String) :=
  nodes.filterMap fun n => (s.redirect? n).map fun target => (n.id, target)

theorem keys_redirectsOf (nodes : List (Node α)) :
    ((s.redirectsOf nodes).map Prod.fst).Sublist (nodes.map Node.id) := by
  unfold redirectsOf
  induction nodes with
  | nil => exact List.Sublist.slnil
  | cons n rest ih =>
    rw [List.filterMap_cons, List.map_cons]
    cases s.redirect? n with
    | none => exact ih.cons n.id
    | some target => exact ih.cons_cons n.id

theorem get?_redirectsOf {nodes : List (Node α)} (hids : (nodes.map Node.id).Nodup) (id : String) :
    Table.get? (s.redirectsOf nodes) id =
      (nodes.find? fun n => n.id = id).bind s.redirect? := by
  unfold redirectsOf
  induction nodes with
  | nil => rfl
  | cons n rest ih =>
    obtain ⟨hnew, hrest⟩ := List.nodup_cons.1 hids
    rw [List.filterMap_cons, List.find?_cons]
    by_cases hid : n.id = id
    · have hnone : (rest.find? fun n => n.id = id) = none := by
        rw [List.find?_eq_none]
        intro m hm hmid
        refine hnew (List.mem_map.2 ⟨m, hm, ?_⟩)
        rw [hid]
        exact of_decide_eq_true hmid
      rw [decide_eq_true hid]
      cases hredirect : s.redirect? n with
      | none =>
        dsimp only [Option.map_none]
        rw [ih hrest, hnone, Option.bind_some, hredirect]
        rfl
      | some target =>
        rw [Option.bind_some, hredirect]
        dsimp only [Option.map_some]
        rw [Table.get?_cons, if_pos hid]
    · rw [decide_eq_false hid]
      cases s.redirect? n with
      | none => exact ih hrest
      | some target =>
        dsimp only [Option.map_some]
        rw [Table.get?_cons, if_neg hid]
        exact ih hrest

/-- Where ids are apart the table of redirects has the redirect of every node. -/
theorem get?_redirects (hids : (s.nodes.map Node.id).Nodup) :
    s.redirects.get? = s.redirectFrom? := by
  funext id
  show Table.get? (Table.ofEntries (s.redirectsOf s.nodes)) id = _
  have hget := get?_redirectsOf (s := s) hids id
  have hkeys : (Table.keys (s.redirectsOf s.nodes)).Nodup := (keys_redirectsOf s.nodes).nodup hids
  cases hfrom : s.redirectFrom? id with
  | some target => exact Table.get?_overlay_of_get? hkeys (hget.trans hfrom) []
  | none =>
    have hhas : Table.has (s.redirectsOf s.nodes) id = false := by
      rw [Table.has_eq_isSome, hget]
      exact congrArg Option.isSome hfrom
    exact Table.get?_overlay hhas []

/-- Redirects lead from nodes to nodes of the story. -/
theorem after_mem {k : Nat} : ∀ {id target : String}, id ∈ s.nodes.map Node.id →
    Redirects.after s.redirectFrom? k id = some target → target ∈ s.nodes.map Node.id := by
  induction k with
  | zero =>
    rintro id target hid ⟨⟩
    exact hid
  | succ k ih =>
    intro id target hid h
    obtain ⟨next, hnext, h⟩ := Option.bind_eq_some_iff.1 h
    obtain ⟨n, -, hredirect⟩ := Option.bind_eq_some_iff.1 hnext
    obtain ⟨m, hm⟩ := Option.isSome_iff_exists.1 (redirect?_found hredirect)
    refine ih (List.mem_map.2 ⟨m, List.mem_of_find?_eq_some hm, ?_⟩) h
    simpa using List.find?_some hm

theorem mem_of_redirectFrom? {id target : String} (h : s.redirectFrom? id = some target) :
    ∃ n ∈ s.nodes, n.id = id := by
  obtain ⟨n, hn, -⟩ := Option.bind_eq_some_iff.1 h
  exact ⟨n, List.mem_of_find?_eq_some hn, by simpa using List.find?_some hn⟩

/-- Redirects of a story that can be followed as often in a row as it has nodes can be followed for
ever. -/
theorem endless_of_after (hnodes : s.nodes ≠ []) {id : String}
    (h : (Redirects.after s.redirectFrom? s.nodes.length id).isSome = true) :
    Redirects.Endless s.redirectFrom? id := by
  obtain ⟨target, htarget⟩ : ∃ target, s.redirectFrom? id = some target := by
    have hfirst := Redirects.isSome_after_of_le (List.length_pos_iff.2 hnodes) h
    rw [Redirects.after_succ] at hfirst
    exact Option.isSome_iff_exists.1 hfirst
  obtain ⟨n, hn, rfl⟩ := mem_of_redirectFrom? htarget
  rw [← List.length_map Node.id] at h
  exact Redirects.endless_of_long (fun k target htarget => after_mem (List.mem_map_of_mem hn) htarget) h

end Story

end StoryRules
