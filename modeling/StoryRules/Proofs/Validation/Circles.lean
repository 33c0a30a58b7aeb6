import Mathlib.Data.List.Cycle
import StoryRules.Proofs.Validation.Warnings

/-!
# Every circle once

A circle of redirects is a cyclic list of ids without repetition in which each id leads to the next.  Redirects
are a function, so circles that share an id are the same.  Following redirects from an id ends: it runs into the
one circle that they lead to, or out of redirects.  So the search finds every circle, from each of its ids, and
keeps it the first time.

    (cycles s.redirects).map (↑) has no repetition, and its members are the circles of s.RedirectsTo
                                                                          (redirectCycles_once)
-/

namespace StoryRules

namespace Redirects

/-! ## Circles -/

/-- A circle: ids without repetition, each of which leads to the next. -/
structure IsCircle (leads : String → String → Prop) (circle : Cycle String) : Prop where
  ne_nil : circle ≠ Cycle.nil
  nodup : circle.Nodup
  chain : circle.Chain leads

/-- The step from an id to the one that it redirects to. -/
def Points (next : String → Option String) (id target : String) : Prop := next id = some target

variable {next : String → Option String} {circle circle' : Cycle String} {id target : String}

theorem Points.unique {other : String} (h : Points next id target) (h' : Points next id other) : target = other :=
  Option.some.inj (h.symm.trans h')

theorem exists_cons_of_mem (h : id ∈ circle) : ∃ rest : List String, circle = ↑(id :: rest) := by
  induction circle using Quotient.inductionOn' with
  | h ids =>
    obtain ⟨before, after, rfl⟩ := List.append_of_mem (Cycle.mem_coe_iff.1 h)
    exact ⟨after ++ before, Cycle.coe_eq_coe.2 List.isRotated_append⟩

namespace IsCircle

/-- On a circle every id leads on, to another id of the circle. -/
theorem leads_on (h : IsCircle (Points next) circle) (hid : id ∈ circle) :
    ∃ target ∈ circle, Points next id target := by
  obtain ⟨rest, rfl⟩ := exists_cons_of_mem hid
  have hchain := (Cycle.chain_coe_cons _ id rest).1 h.chain
  cases rest with
  | nil => exact ⟨id, hid, (List.isChain_cons_cons.1 hchain).1⟩
  | cons second rest =>
    exact ⟨second, Cycle.mem_coe_iff.2 (by simp), (List.isChain_cons_cons.1 hchain).1⟩

theorem closed (h : IsCircle (Points next) circle) (hid : id ∈ circle) (hpoints : Points next id target) :
    target ∈ circle := by
  obtain ⟨other, hother, hpoints'⟩ := h.leads_on hid
  rwa [hpoints.unique hpoints']

/-- From an id there is one way to come to another for the first time. -/
theorem way_unique {ids ids' : List String} : ∀ {start : String},
    (start :: (ids ++ [id])).IsChain (Points next) → (start :: (ids' ++ [id])).IsChain (Points next) →
    id ∉ ids → id ∉ ids' → ids = ids' := by
  induction ids generalizing ids' with
  | nil =>
    intro start h h' _ hnew
    obtain ⟨hid, -⟩ := List.isChain_cons_cons.1 h
    cases ids' with
    | nil => rfl
    | cons first rest =>
      obtain ⟨hfirst, -⟩ := List.isChain_cons_cons.1 h'
      exact absurd (hid.unique hfirst ▸ List.mem_cons_self) hnew
  | cons first rest ih =>
    intro start h h' hnew hnew'
    obtain ⟨hfirst, hrest⟩ := List.isChain_cons_cons.1 h
    cases ids' with
    | nil =>
      obtain ⟨hid, -⟩ := List.isChain_cons_cons.1 h'
      exact absurd (hid.unique hfirst ▸ List.mem_cons_self) hnew
    | cons first' rest' =>
      obtain ⟨hfirst', hrest'⟩ := List.isChain_cons_cons.1 h'
      obtain rfl := hfirst.unique hfirst'
      rw [ih hrest hrest' (List.not_mem_of_not_mem_cons hnew) (List.not_mem_of_not_mem_cons hnew')]

/-- Circles that share an id are the same. -/
theorem unique (h : IsCircle (Points next) circle) (h' : IsCircle (Points next) circle') (hid : id ∈ circle)
    (hid' : id ∈ circle') : circle = circle' := by
  obtain ⟨rest, rfl⟩ := exists_cons_of_mem hid
  obtain ⟨rest', rfl⟩ := exists_cons_of_mem hid'
  have hnew := (List.nodup_cons.1 (Cycle.nodup_coe_iff.1 h.nodup)).1
  have hnew' := (List.nodup_cons.1 (Cycle.nodup_coe_iff.1 h'.nodup)).1
  rw [way_unique ((Cycle.chain_coe_cons _ id rest).1 h.chain) ((Cycle.chain_coe_cons _ id rest').1 h'.chain)
    hnew hnew']

end IsCircle

/-! ## Following -/

/-- Redirects are followed from an id, behind a path of those that were passed, for as long as the id redirects
and was not passed; `last` is where that ends, and `passed` the path to it. -/
inductive Follows (next : String → Option String) (passed : List String) (last : String) :
    List String → String → Prop
  | halt : next last = none ∨ last ∈ passed → Follows next passed last passed last
  | on {path : List String} {current target : String} : current ∉ path → next current = some target →
    Follows next passed last (path ++ [current]) target → Follows next passed last path current

/-- Following with as much fuel as there are redirects ends where it would end without a limit. -/
theorem follow_follows {t : Table String} {start : String} {fuel : Nat} :
    ∀ {path : List String} {current : String}, Walked t start path current →
    fuel + path.length = t.length + 1 → ∃ passed last, Follows t.get? passed last path current ∧
      follow t fuel path current = (passed, if last ∈ passed then some last else none) := by
  induction fuel with
  | zero =>
    intro path current h hfuel
    have := h.length_le
    omega
  | succ fuel ih =>
    intro path current h hfuel
    rw [follow]
    split
    · next hmet =>
      have hmet : current ∈ path := by simpa using hmet
      exact ⟨path, current, .halt (.inr hmet), by rw [if_pos hmet]⟩
    · next hnew =>
      have hnew : current ∉ path := by simpa using hnew
      cases htarget : t.get? current with
      | none => exact ⟨path, current, .halt (.inl htarget), by rw [if_neg hnew]⟩
      | some target =>
        have hfuel' : fuel + (path ++ [current]).length = t.length + 1 := by
          rw [List.length_append, List.length_singleton]
          omega
        obtain ⟨passed, last, hfollows, hfollow⟩ := ih (h.step hnew htarget) hfuel'
        exact ⟨passed, last, .on hnew htarget hfollows, hfollow⟩

/-- Following redirects ends, and what is found are the ids from where they come back on. -/
theorem exists_follows (t : Table String) (start : String) : ∃ passed last,
    Follows t.get? passed last [] start ∧
      cycleFrom? t start = if last ∈ passed then some (passed.dropWhile (· ≠ last)) else none := by
  obtain ⟨passed, last, hfollows, hfollow⟩ := follow_follows (Walked.nil t start) rfl
  refine ⟨passed, last, hfollows, ?_⟩
  unfold cycleFrom?
  rw [hfollow]
  by_cases hmet : last ∈ passed
  · rw [if_pos hmet, if_pos hmet]
  · rw [if_neg hmet, if_neg hmet]

/-- The ids from a start to where redirects have been followed to, each leading to the next. -/
structure Trail (next : String → Option String) (start : String) (path : List String) (current : String) :
    Prop where
  chain : (path ++ [current]).IsChain (Points next)
  nodup : path.Nodup
  starts : (path ++ [current]).head? = some start

namespace Trail

variable {start current : String} {path : List String}

theorem nil (next : String → Option String) (start : String) : Trail next start [] start :=
  ⟨List.isChain_singleton start, List.nodup_nil, rfl⟩

theorem step (h : Trail next start path current) (hnew : current ∉ path) (hnext : next current = some target) :
    Trail next start (path ++ [current]) target where
  chain := by
    refine List.isChain_append.2 ⟨h.chain, List.isChain_singleton target, ?_⟩
    simpa [Points] using hnext
  nodup := by
    refine List.nodup_append.2 ⟨h.nodup, List.nodup_singleton current, ?_⟩
    rintro a ha b hb rfl
    exact hnew (List.mem_singleton.1 hb ▸ ha)
  starts := by
    rw [List.head?_append, h.starts]
    rfl

theorem of_follows {passed : List String} {last : String} (hfollows : Follows next passed last path current)
    (h : Trail next start path current) :
    Trail next start passed last ∧ (next last = none ∨ last ∈ passed) := by
  induction hfollows with
  | halt hhalt => exact ⟨h, hhalt⟩
  | on hnew hnext _ ih => exact ih (h.step hnew hnext)

/-- A trail that comes back to an id has run into a circle there. -/
theorem isCircle (h : Trail next start path current) (hmet : current ∈ path) :
    IsCircle (Points next) ↑(path.dropWhile (· ≠ current)) := by
  obtain ⟨before, after, rfl, hnew⟩ := List.eq_append_cons_of_mem hmet
  have hdrop : (before ++ current :: after).dropWhile (· ≠ current) = current :: after := by
    have hpos : ∀ id ∈ before, decide (id ≠ current) = true := by
      rintro id hid
      exact decide_eq_true fun heq => hnew (heq ▸ hid)
    rw [List.dropWhile_append_of_pos hpos]
    exact List.dropWhile_cons_of_neg (by simp)
  have hchain := h.chain
  rw [List.append_assoc] at hchain
  rw [hdrop]
  exact {
    ne_nil := by simp
    nodup := Cycle.nodup_coe_iff.2 (List.nodup_append.1 h.nodup).2.1
    chain := (Cycle.chain_coe_cons _ current after).2 (List.isChain_append.1 hchain).2.1 }

/-- A trail that starts on a circle stays on it. -/
theorem subset_circle {ids : List String} (hchain : ids.IsChain (Points next)) (hstart : ids.head? = some start)
    (hcircle : IsCircle (Points next) circle) (hmem : start ∈ circle) : ∀ id ∈ ids, id ∈ circle := by
  induction ids generalizing start with
  | nil => exact fun id hid => absurd hid List.not_mem_nil
  | cons first rest ih =>
    obtain rfl : first = start := Option.some.inj hstart
    refine List.forall_mem_cons.2 ⟨hmem, ?_⟩
    cases rest with
    | nil => exact fun id hid => absurd hid List.not_mem_nil
    | cons second rest =>
      obtain ⟨hpoints, hrest⟩ := List.isChain_cons_cons.1 hchain
      exact ih hrest rfl (hcircle.closed hmem hpoints)

end Trail

/-! ## The search -/

variable {t : Table String} {start : String}

theorem cycleFrom?_isCircle {ids : List String} (h : cycleFrom? t start = some ids) :
    IsCircle (Points t.get?) ↑ids := by
  obtain ⟨passed, last, hfollows, hcycle⟩ := exists_follows t start
  obtain ⟨htrail, -⟩ := Trail.of_follows hfollows (Trail.nil t.get? start)
  rw [hcycle] at h
  split at h
  · next hmet =>
    cases h
    exact htrail.isCircle hmet
  · cases h

/-- From every id of a circle the circle is found. -/
theorem cycleFrom?_of_mem (hcircle : IsCircle (Points t.get?) circle) (hstart : start ∈ circle) :
    ∃ ids, cycleFrom? t start = some ids ∧ (ids : Cycle String) = circle := by
  obtain ⟨passed, last, hfollows, hcycle⟩ := exists_follows t start
  obtain ⟨htrail, hhalt⟩ := Trail.of_follows hfollows (Trail.nil t.get? start)
  have hmem := Trail.subset_circle htrail.chain htrail.starts hcircle hstart
  have hlast : last ∈ circle := hmem last (by simp)
  have hmet : last ∈ passed := by
    obtain ⟨target, -, hnext⟩ := hcircle.leads_on hlast
    rcases hhalt with hnone | hmet
    · exact nomatch hnone.symm.trans hnext
    · exact hmet
  rw [if_pos hmet] at hcycle
  have hfound := htrail.isCircle hmet
  refine ⟨_, hcycle, ?_⟩
  obtain ⟨id, rest, hids⟩ := List.exists_cons_of_ne_nil (mt (Cycle.coe_eq_nil _).2 hfound.ne_nil)
  have hid : id ∈ passed.dropWhile (· ≠ last) := by rw [hids]; exact List.mem_cons_self
  have hpassed : id ∈ passed := (List.dropWhile_sublist _).subset hid
  exact hfound.unique hcircle (Cycle.mem_coe_iff.2 hid) (hmem id (List.mem_append_left _ hpassed))

/-- The lists that were found are circles, no two of them the same one. -/
structure Found (t : Table String) (found : List (List String)) : Prop where
  circles : ∀ ids ∈ found, IsCircle (Points t.get?) ↑ids
  apart : (found.map ((↑) : List String → Cycle String)).Nodup

/-- A circle shares an id with one that was found just if it was found. -/
theorem Found.meets_iff {found : List (List String)} (h : Found t found) {ids : List String}
    (hids : IsCircle (Points t.get?) ↑ids) :
    (ids.any fun id => found.any (·.contains id)) = true ↔
      (ids : Cycle String) ∈ found.map ((↑) : List String → Cycle String) := by
  simp only [List.any_eq_true, List.contains_iff_mem, List.mem_map]
  constructor
  · rintro ⟨id, hid, other, hother, hmeet⟩
    exact ⟨other, hother, (h.circles other hother).unique hids (Cycle.mem_coe_iff.2 hmeet)
      (Cycle.mem_coe_iff.2 hid)⟩
  · rintro ⟨other, hother, heq⟩
    obtain ⟨id, rest, rfl⟩ := List.exists_cons_of_ne_nil (mt (Cycle.coe_eq_nil ids).2 hids.ne_nil)
    refine ⟨id, List.mem_cons_self, other, hother, ?_⟩
    rw [← Cycle.mem_coe_iff, heq]
    exact Cycle.mem_coe_iff.2 List.mem_cons_self

theorem Found.insert {found : List (List String)} (h : Found t found) {ids : List String}
    (hids : IsCircle (Points t.get?) ↑ids)
    (hnew : (ids : Cycle String) ∉ found.map ((↑) : List String → Cycle String)) :
    Found t (found ++ [ids]) where
  circles := List.forall_mem_append.2 ⟨h.circles, by simpa using hids⟩
  apart := by
    rw [List.map_append]
    refine List.nodup_append.2 ⟨h.apart, List.nodup_singleton _, ?_⟩
    rintro a ha b hb rfl
    exact hnew (List.mem_singleton.1 hb ▸ ha)

/-- The search keeps what was found, and adds the circles that are found from the starts. -/
theorem cyclesFrom_found {starts : List String} : ∀ {found : List (List String)}, Found t found →
    Found t (cyclesFrom t found starts) ∧
      ∀ circle : Cycle String, circle ∈ (cyclesFrom t found starts).map ((↑) : List String → Cycle String) ↔
        circle ∈ found.map ((↑) : List String → Cycle String) ∨
          ∃ start ∈ starts, ∃ ids, cycleFrom? t start = some ids ∧ (ids : Cycle String) = circle := by
  induction starts with
  | nil =>
    intro found h
    simpa [cyclesFrom] using h
  | cons start rest ih =>
    intro found h
    rw [cyclesFrom]
    cases hcycle : cycleFrom? t start with
    | none => simpa [hcycle] using ih h
    | some ids =>
      have hids := cycleFrom?_isCircle hcycle
      dsimp only
      split
      · next hmet =>
        -- A circle that was found before is found again, and nothing is added.
        have hmem := (h.meets_iff hids).1 hmet
        obtain ⟨hfound, hiff⟩ := ih h
        refine ⟨hfound, fun circle => ?_⟩
        rw [hiff, List.exists_mem_cons_iff]
        simp only [hcycle, Option.some.injEq, exists_eq_left']
        constructor
        · exact Or.imp_right .inr
        · rintro (hmem | rfl | hlater)
          · exact .inl hmem
          · exact .inl hmem
          · exact .inr hlater
      · next hnew =>
        obtain ⟨hfound, hiff⟩ := ih (h.insert hids (mt (h.meets_iff hids).2 hnew))
        refine ⟨hfound, fun circle => ?_⟩
        rw [hiff, List.exists_mem_cons_iff, List.map_append, List.mem_append, List.map_singleton,
          List.mem_singleton]
        simp only [hcycle, Option.some.injEq, exists_eq_left']
        rw [or_assoc, eq_comm]

/-- The search finds every circle, and each once. -/
theorem cycles_found (t : Table String) : Found t (cycles t) ∧
    ∀ circle : Cycle String, circle ∈ (cycles t).map ((↑) : List String → Cycle String) ↔
      IsCircle (Points t.get?) circle := by
  have hnone : Found t [] := ⟨by simp, List.nodup_nil⟩
  obtain ⟨hfound, hiff⟩ := cyclesFrom_found hnone
  refine ⟨hfound, fun circle => (hiff circle).trans ?_⟩
  rw [List.map_nil]
  constructor
  · rintro (hnil | ⟨start, -, ids, hcycle, rfl⟩)
    · exact absurd hnil List.not_mem_nil
    · exact cycleFrom?_isCircle hcycle
  · intro hcircle
    induction circle using Quotient.inductionOn' with
    | h ids =>
      obtain ⟨start, rest, rfl⟩ := List.exists_cons_of_ne_nil (mt (Cycle.coe_eq_nil ids).2 hcircle.ne_nil)
      have hstart : start ∈ ((start :: rest : List String) : Cycle String) :=
        Cycle.mem_coe_iff.2 List.mem_cons_self
      obtain ⟨target, -, hnext⟩ := hcircle.leads_on hstart
      have hkey : start ∈ t.keys := List.mem_map_of_mem (Table.mem_of_get? hnext)
      exact .inr ⟨start, List.mem_mergeSort.2 hkey, cycleFrom?_of_mem hcircle hstart⟩

end Redirects

/-! ## Circles of a story -/

namespace Story

open Redirects

variable {α : Type} {s : Story α}

/-- A node redirects to another: that is where the first jump at the top of its entry effects leads. -/
structure RedirectsTo (s : Story α) (id target : String) : Prop where
  jumps : ∃ n ∈ s.nodes, n.id = id ∧ ∃ before after, n.onEnterEffects = before ++ .goto target :: after ∧
    ∀ e ∈ before, e.target? = none
  found : target ∈ s.nodes.map Node.id

theorem target?_eq_some {e : Effect α} {target : String} : e.target? = some target ↔ e = .goto target := by
  cases e <;> simp [Effect.target?]

theorem redirect?_eq_some {n : Node α} {target : String} : s.redirect? n = some target ↔
    (∃ before after, n.onEnterEffects = before ++ .goto target :: after ∧ ∀ e ∈ before, e.target? = none) ∧
      target ∈ s.nodes.map Node.id := by
  have hnode : (s.node? target).isSome = true ↔ target ∈ s.nodes.map Node.id := by
    unfold node?
    rw [List.find?_isSome, List.mem_map]
    simp
  have hjump : Effect.firstGoto? n.onEnterEffects = some target ↔
      ∃ before after, n.onEnterEffects = before ++ .goto target :: after ∧ ∀ e ∈ before, e.target? = none := by
    rw [Effect.firstGoto?_eq_findSome?, List.findSome?_eq_some_iff]
    simp only [target?_eq_some]
    constructor
    · rintro ⟨before, _, after, heq, rfl, hbefore⟩
      exact ⟨before, after, heq, hbefore⟩
    · rintro ⟨before, after, heq, hbefore⟩
      exact ⟨before, _, after, heq, rfl, hbefore⟩
  have hnever : (none : Option String) ≠ some target := (Option.some_ne_none target).symm
  rw [← hnode, ← hjump]
  unfold redirect?
  split
  · next first hfirst =>
    rw [hfirst, Option.some.injEq]
    split
    · next hfound =>
      rw [Option.some.injEq]
      exact ⟨fun h => ⟨h, h ▸ hfound⟩, And.left⟩
    · next hlost =>
      refine iff_of_false hnever ?_
      rintro ⟨rfl, hfound⟩
      exact hlost hfound
  · next hnone =>
    rw [hnone]
    exact iff_of_false hnever fun h => hnever h.1

/-- Where ids are apart a node redirects to at most one other. -/
theorem points_eq_redirectsTo (hids : (s.nodes.map Node.id).Nodup) :
    Points s.redirectFrom? = s.RedirectsTo := by
  funext id target
  refine propext ⟨?_, ?_⟩
  · intro h
    obtain ⟨n, hn, hredirect⟩ := Option.bind_eq_some_iff.1 h
    obtain ⟨hjumps, hfound⟩ := redirect?_eq_some.1 hredirect
    exact ⟨⟨n, List.mem_of_find?_eq_some hn, by simpa using List.find?_some hn, hjumps⟩, hfound⟩
  · rintro ⟨⟨n, hn, rfl, hjumps⟩, hfound⟩
    have hnode : s.node? n.id = some n := find?_of_nodup hids hn
    exact Option.bind_eq_some_iff.2 ⟨n, hnode, redirect?_eq_some.2 ⟨hjumps, hfound⟩⟩

variable [Number α]

/-- What the check of a story says of the circles of its redirects, which are found as lists of ids. -/
structure CirclesReported (s : Story α) (found : List (List String)) : Prop where
  /-- Following redirects ends from every id, and what is found are the ids from where they come back on. -/
  ends : ∀ start, ∃ passed last, Follows s.redirectFrom? passed last [] start ∧
    cycleFrom? s.redirects start = if last ∈ passed then some (passed.dropWhile (· ≠ last)) else none
  /-- No circle is found twice, wherever it is entered. -/
  once : (found.map ((↑) : List String → Cycle String)).Nodup
  /-- What is found are the circles, and all of them. -/
  complete : ∀ circle : Cycle String,
    circle ∈ found.map ((↑) : List String → Cycle String) ↔ IsCircle s.RedirectsTo circle
  /-- The words list the ids of the circle, each behind the one that redirects to it, and the first again. -/
  listed : ∀ ids ∈ found, ∃ first rest, ids = first :: rest ∧ ids.Nodup ∧
    (ids ++ [first]).IsChain s.RedirectsTo ∧
    (Flaw.redirectCycle ids : Flaw).text = cycleWords ++ String.intercalate " -> " (ids ++ [first])
  /-- The check reports each circle that is found, and no other. -/
  reported : ∀ language flaws, s.flaws language = .ok flaws →
    flaws.filter Flaw.isCycle = found.map .redirectCycle

theorem filter_isCycle {language : PatternLanguage} {flaws : List Flaw}
    (h : s.flaws language = .ok flaws) :
    flaws.filter Flaw.isCycle = (cycles s.redirects).map .redirectCycle := by
  obtain ⟨plain, rfl, hplain⟩ := flaws_eq h
  have hnone : plain.filter Flaw.isCycle = [] := by
    refine List.filter_eq_nil_iff.2 fun f hf hcycle => ?_
    have hlocal := hplain f hf
    cases f <;> cases hcycle
    cases hlocal
  have hunreferenced : s.unreferenced.filter Flaw.isCycle = [] := by
    refine List.filter_eq_nil_iff.2 fun f hf hcycle => ?_
    obtain ⟨_, -, n, -, rfl, -⟩ := mem_unreferenced.1 hf
    cases hcycle
  rw [List.filter_append, List.filter_append, hnone, hunreferenced, List.append_nil, List.nil_append,
    List.filter_eq_self]
  intro f hf
  obtain ⟨ids, -, rfl⟩ := List.mem_map.1 hf
  rfl

/-- The check reports every circle of redirects, and each once. -/
theorem redirectCycles_once (s : Story α) (hids : (s.nodes.map Node.id).Nodup) :
    s.CirclesReported (cycles s.redirects) := by
  obtain ⟨hfound, hcomplete⟩ := cycles_found s.redirects
  have hcircles := hfound.circles
  rw [get?_redirects hids, points_eq_redirectsTo hids] at hcircles hcomplete
  refine ⟨fun start => ?ends, hfound.apart, hcomplete, fun ids hmem => ?listed, ?reported⟩
  case ends =>
    have hends := exists_follows s.redirects start
    rwa [get?_redirects hids] at hends
  case listed =>
    have hcircle := hcircles ids hmem
    obtain ⟨first, rest, rfl⟩ := List.exists_cons_of_ne_nil (mt (Cycle.coe_eq_nil ids).2 hcircle.ne_nil)
    exact ⟨first, rest, rfl, Cycle.nodup_coe_iff.1 hcircle.nodup,
      (Cycle.chain_coe_cons _ first rest).1 hcircle.chain, rfl⟩
  case reported => exact fun language flaws => filter_isCycle

/-- An alley that runs into two nodes that send the game back and forth, a door that leads nowhere, and a well
that leads to itself. -/
def bends : Story Amount where
  title := "The bends"
  language := "en"
  version := "1"
  assets := []
  items := []
  currencies := []
  stats := []
  nodes :=
    [.passage "alley" [.goto "bend"], .passage "bend" [.log "Where to?", .goto "corner", .goto "well"],
      .passage "corner" [.goto "bend"], .passage "door" [.lootTable [⟨.int 1, [.goto "door"]⟩], .goto "moon"],
      .passage "well" [.goto "well"]]

theorem bends_redirectCycles : (bends.nodes.map Node.id).Nodup ∧
    cycles bends.redirects = [["bend", "corner"], ["well"]] ∧
    bends.CirclesReported [["bend", "corner"], ["well"]] := by
  have hids : (bends.nodes.map Node.id).Nodup := by decide
  have hkeys : bends.redirects.keys = ["alley", "bend", "corner", "well"] := by decide +kernel
  have hcycles : cycles bends.redirects = [["bend", "corner"], ["well"]] := by
    unfold cycles
    -- Sorting does not evaluate, but there is nothing to sort.
    rw [hkeys, List.mergeSort_of_pairwise (by decide +kernel)]
    decide +kernel
  exact ⟨hids, hcycles, hcycles ▸ redirectCycles_once bends hids⟩

end Story

end StoryRules
