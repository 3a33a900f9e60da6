import Diameter.Proofs.Queue.Custody
import Mathlib.Logic.Relation

/-!
# Where redirects lead

A redirect leads from a queue that was moved to the one that serves it. Every queue has at
most one, and a queue that holds items has none. A step never takes a route away, except
that a queue on it may be closed, and then the route ends at a queue that refuses.
-/

namespace Diameter.Queue

variable {α η : Type}

namespace Outline

/-- The redirect of a queue that can still be used. -/
def Edge (o : Outline α) (q target : QueueId) : Prop :=
  ∃ items, o.faces[q]? = some ⟨.usable, items, some target⟩

/-- Redirects lead from one queue to the other. -/
def Leads (o : Outline α) : QueueId → QueueId → Prop := Relation.ReflTransGen o.Edge

/-- Redirects lead to a queue that refuses every call. -/
def Refuses (o : Outline α) (q : QueueId) : Prop :=
  ∃ d x, o.Leads q d ∧ o.faces[d]? = some x ∧ x.lifecycle = .destroyed

/-- Redirects lead to the given queue, or to one that refuses. -/
def Routes (o : Outline α) (q target : QueueId) : Prop := o.Leads q target ∨ o.Refuses q

/-- A queue that serves others or refuses holds no items. -/
def Cleared (o : Outline α) : Prop :=
  ∀ (q : Nat) (x : Face α), o.faces[q]? = some x →
    x.lifecycle = .destroyed ∨ x.redirect ≠ none → x.items = []

/-- A queue has at most one redirect. -/
theorem edge_unique (o : Outline α) : Relator.RightUnique o.Edge := by
  rintro q t t' ⟨items, h⟩ ⟨items', h'⟩
  rw [h] at h'
  cases h'
  rfl

/-- No redirect leaves a queue that holds an item. -/
theorem Cleared.not_edge {o : Outline α} (h : o.Cleared) {q t : QueueId} {x : Face α} {p : α}
    (hq : o.faces[q]? = some x) (hp : p ∈ x.items) : ¬ o.Edge q t := by
  rintro ⟨items, ht⟩
  rw [hq] at ht
  cases ht
  have hi := h q _ hq (.inr (by simp))
  dsimp only at hi
  rw [hi] at hp
  cases hp

/-- No redirect leaves a queue that refuses. -/
theorem not_edge_of_destroyed {o : Outline α} {d t : QueueId} {x : Face α}
    (hd : o.faces[d]? = some x) (hl : x.lifecycle = .destroyed) : ¬ o.Edge d t := by
  rintro ⟨items, ht⟩
  rw [hd] at ht
  cases ht
  cases hl

/-- No redirect leaves a queue that serves itself. -/
theorem not_edge_of_serving {o : Outline α} {q : QueueId} {items : List α}
    (hq : o.faces[q]? = some ⟨.usable, items, none⟩) (t : QueueId) : ¬ o.Edge q t := by
  rintro ⟨items', ht⟩
  rw [hq] at ht
  cases ht

/-- A route from where no redirect leaves has ended. -/
theorem Leads.eq_of_not_edge {o : Outline α} {q t : QueueId} (h : o.Leads q t)
    (hn : ∀ t, ¬ o.Edge q t) : q = t := by
  rcases Relation.ReflTransGen.cases_head h with he | ⟨z, hz, -⟩
  · exact he
  · exact absurd hz (hn z)

/-- Of two routes from one queue, the one that ends where no redirect leaves goes on from
the end of the other. -/
theorem Leads.extend {o : Outline α} {q z t : QueueId} (ht : o.Leads q t) (hz : o.Leads q z)
    (hn : ∀ u, ¬ o.Edge t u) : o.Leads z t := by
  rcases Relation.ReflTransGen.total_of_right_unique o.edge_unique hz ht with h | h
  · exact h
  · rw [Leads.eq_of_not_edge h hn]
    exact .refl

/-- What holds of a queue that leads on holds of the queue that it leads to. -/
theorem Refuses.extend {o : Outline α} {q z : QueueId} (h : o.Refuses q) (hz : o.Leads q z) :
    o.Refuses z := by
  obtain ⟨d, x, hd, hx, hl⟩ := h
  exact ⟨d, x, hd.extend hz fun _ => not_edge_of_destroyed hx hl, hx, hl⟩

/-- A queue from which redirects lead to a refusing one refuses as well. -/
theorem Refuses.of_leads {o : Outline α} {q z : QueueId} (h : o.Refuses z) (hz : o.Leads q z) :
    o.Refuses q := by
  obtain ⟨d, x, hd, hx, hl⟩ := h
  exact ⟨d, x, hz.trans hd, hx, hl⟩

/-- A route goes on along a redirect of the queue where it ends. -/
theorem Routes.tail {o : Outline α} {q z t : QueueId} (h : o.Routes q z) (he : o.Edge z t) :
    o.Routes q t :=
  h.imp_left (·.tail he)

/-- A route to a queue that holds an item goes on from every queue on the way. -/
theorem Routes.extend {o : Outline α} {q z t : QueueId} (h : o.Routes q t) (hz : o.Leads q z)
    (hn : ∀ u, ¬ o.Edge t u) : o.Routes z t :=
  h.imp (·.extend hz hn) (·.extend hz)

/-- Two handles whose redirects lead to one queue. -/
def Meet (o : Outline α) (q r : QueueId) : Prop := ∃ z, o.Leads q z ∧ o.Leads r z

/-- Two handles that meet share the route to a queue that holds an item. -/
theorem Meet.routes {o : Outline α} {q r t : QueueId} (h : o.Meet q r) (hq : o.Routes q t)
    (hn : ∀ u, ¬ o.Edge t u) : o.Routes r t := by
  obtain ⟨z, hz, hr⟩ := h
  rcases hq.extend hz hn with hl | hd
  · exact .inl (hr.trans hl)
  · exact .inr (hd.of_leads hr)

/-! ## What a step does to routes -/

/-- A list with another entry in a place that there is. -/
theorem getElem?_set_of_getElem? {β : Type} {l : List β} {i : Nat} {x : β} (h : l[i]? = some x)
    (y : β) (j : Nat) : (l.set i y)[j]? = if i = j then some y else l[j]? := by
  have hl := (List.getElem?_eq_some_iff.mp h).1
  rw [List.getElem?_set, if_pos hl]

/-- A queue refuses after a step, or it could be used before and still can, with the
redirect that it had, if it had one. -/
theorem Step.face {o o' : Outline α} {made : Option (Request α)} {taken : Option (Taking α)}
    (h : o.Step made taken o') {q : QueueId} {x : Face α} (hx : o.faces[q]? = some x) :
    ∃ x', o'.faces[q]? = some x' ∧ (x'.lifecycle = .destroyed ∨
      x.lifecycle = .usable ∧ x'.lifecycle = .usable ∧
        (x'.redirect = x.redirect ∨ x.redirect = none)) := by
  have hsame : x.lifecycle = .destroyed ∨ x.lifecycle = .usable ∧ x.lifecycle = .usable ∧
      (x.redirect = x.redirect ∨ x.redirect = none) := by
    cases x.lifecycle <;> simp
  have hset {p : Nat} {y z : Face α} (hy : o.faces[p]? = some y)
      (hz : z.lifecycle = .destroyed ∨ y.lifecycle = .usable ∧ z.lifecycle = .usable ∧
        (z.redirect = y.redirect ∨ y.redirect = none)) :
      ∃ x', (o.faces.set p z)[q]? = some x' ∧ (x'.lifecycle = .destroyed ∨
        x.lifecycle = .usable ∧ x'.lifecycle = .usable ∧
          (x'.redirect = x.redirect ∨ x.redirect = none)) := by
    rw [getElem?_set_of_getElem? hy]
    split_ifs with hp
    · subst hp
      rw [hy] at hx
      cases hx
      exact ⟨z, rfl, hz⟩
    · exact ⟨x, hx, hsame⟩
  cases h with
  | rest => exact ⟨x, hx, hsame⟩
  | addQueue =>
    have hl := (List.getElem?_eq_some_iff.mp hx).1
    exact ⟨x, by rw [List.getElem?_append_left hl, hx], hsame⟩
  | call hq => exact ⟨x, hx, hsame⟩
  | follow hc hq => exact ⟨x, hx, hsame⟩
  | fail hc hs => exact ⟨x, hx, hsame⟩
  | store hc hq => exact hset hq (by simp)
  | take hc hq => exact hset hq (by simp)
  | takeNow hq => exact hset hq (by simp)
  | @move source target moved items hn hs ht =>
    have hs' := getElem?_set_other ⟨.usable, items ++ moved, none⟩ hn hs
    rw [getElem?_set_of_getElem? hs']
    split_ifs with hp
    · subst hp
      rw [hs] at hx
      cases hx
      exact ⟨_, rfl, by simp⟩
    · exact hset ht (by simp)
  | close hq => exact hset hq (by simp)

/-- A redirect stays, unless its queue is closed. -/
theorem Step.edge {o o' : Outline α} {made : Option (Request α)} {taken : Option (Taking α)}
    (h : o.Step made taken o') {q t : QueueId} (he : o.Edge q t) : o'.Edge q t ∨ o'.Refuses q := by
  obtain ⟨items, hi⟩ := he
  obtain ⟨⟨lifecycle, items', redirect⟩, hx, hl | ⟨-, hl, hr⟩⟩ := h.face hi
  · exact .inr ⟨q, _, .refl, hx, hl⟩
  · dsimp only at hl hr
    rw [hl, hr.resolve_right (by simp)] at hx
    exact .inl ⟨items', hx⟩

/-- A queue that refuses goes on refusing. -/
theorem Step.destroyed {o o' : Outline α} {made : Option (Request α)} {taken : Option (Taking α)}
    (h : o.Step made taken o') {d : QueueId} {x : Face α} (hd : o.faces[d]? = some x)
    (hl : x.lifecycle = .destroyed) : ∃ x', o'.faces[d]? = some x' ∧ x'.lifecycle = .destroyed := by
  obtain ⟨x', hx, hl' | ⟨hu, -⟩⟩ := h.face hd
  · exact ⟨x', hx, hl'⟩
  · rw [hl] at hu
    cases hu

/-- A route stays, unless a queue on it is closed. -/
theorem Step.leads {o o' : Outline α} {made : Option (Request α)} {taken : Option (Taking α)}
    (h : o.Step made taken o') {q t : QueueId} (hl : o.Leads q t) : o'.Routes q t := by
  induction hl using Relation.ReflTransGen.head_induction_on with
  | refl => exact .inl .refl
  | head he _ ih =>
    rcases h.edge he with he' | hr
    · exact ih.imp (·.head he') (·.of_leads (.single he'))
    · exact .inr hr

/-- A step leaves refusing what refuses. -/
theorem Step.refuses {o o' : Outline α} {made : Option (Request α)} {taken : Option (Taking α)}
    (h : o.Step made taken o') {q : QueueId} (hr : o.Refuses q) : o'.Refuses q := by
  obtain ⟨d, x, hd, hx, hl⟩ := hr
  obtain ⟨x', hx', hl'⟩ := h.destroyed hx hl
  rcases h.leads hd with hd' | hd'
  · exact ⟨d, x', hd', hx', hl'⟩
  · exact hd'

/-- A step leaves every route, or the queue refuses. -/
theorem Step.routes {o o' : Outline α} {made : Option (Request α)} {taken : Option (Taking α)}
    (h : o.Step made taken o') {q t : QueueId} (hr : o.Routes q t) : o'.Routes q t :=
  hr.elim h.leads fun hd => .inr (h.refuses hd)

/-- A queue that serves others or refuses stays without items. One queue has another face after
the step, which is clear if it has to be. -/
theorem Step.cleared {o o' : Outline α} {made : Option (Request α)} {taken : Option (Taking α)}
    (h : o.Step made taken o') (ho : o.Cleared) : o'.Cleared := by
  have hset {faces : List (Face α)} {p : Nat} {y z : Face α}
      (hf : ∀ (q : Nat) (x : Face α), faces[q]? = some x →
        x.lifecycle = .destroyed ∨ x.redirect ≠ none → x.items = [])
      (hy : faces[p]? = some y)
      (hz : z.lifecycle = .destroyed ∨ z.redirect ≠ none → z.items = [])
      (q : Nat) (x : Face α) (hx : (faces.set p z)[q]? = some x)
      (hr : x.lifecycle = .destroyed ∨ x.redirect ≠ none) : x.items = [] := by
    rw [getElem?_set_of_getElem? hy] at hx
    split_ifs at hx with hp
    · cases hx
      exact hz hr
    · exact hf q x hx hr
  cases h with
  | rest => exact ho
  | addQueue =>
    intro q x hx hr
    rw [List.getElem?_append] at hx
    split_ifs at hx with hl
    · exact ho q x hx hr
    · rw [List.getElem?_singleton] at hx
      split_ifs at hx
      cases hx
      rfl
  | call hq => exact ho
  | follow hc hq => exact ho
  | fail hc hs => exact ho
  | store hc hq => exact hset ho hq (by simp)
  | take hc hq => exact hset ho hq (by simp)
  | takeNow hq =>
    refine hset ho hq fun hr => ?_
    have hi := ho _ _ hq hr
    cases hi
  | @move source target moved items hn hs ht =>
    have hs' := getElem?_set_other ⟨.usable, items ++ moved, none⟩ hn hs
    exact hset (hset ho ht (by simp)) hs' (by simp)
  | close hq => exact hset ho hq (by simp)

/-- Nothing has happened, so no queue holds an item. -/
theorem cleared_start : (Course.start (α := α) (η := η)).system.outline.Cleared := by
  intro q x hx
  simp [Course.start, System.empty, System.outline] at hx

end Outline

end Diameter.Queue
