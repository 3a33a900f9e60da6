import Diameter.Proofs.Queue.Routes

/-!
# The order of two pushes

An item stays on the route of the handle through which it was pushed. So when a second push
is made through a handle that leads to the same queue, the first item lies ahead on its
route, in a queue that the second item can only come behind.
-/

namespace Diameter.Queue

variable {α : Type}

namespace Outline

/-! ## Where items and calls come from -/

/-- The contents of a queue after a step: nothing, what it held, that with one item more at
its end or one item less at its head, or that with the contents of another queue behind. -/
inductive Contents (o o' : Outline α) (taken : Option (Taking α)) (q : QueueId) :
    List α → Prop
  | nothing : Contents o o' taken q []
  | same {x} (hq : o.faces[q]? = some x) : Contents o o' taken q x.items
  | stored {c : Nat} {p items} (hc : o.calls[c]? = some (.push p, .facing q))
      (hq : o.faces[q]? = some ⟨.usable, items, none⟩) : Contents o o' taken q (items ++ [p])
  | taken {x t items} (hq : o.faces[q]? = some x) (hi : x.items = t.item :: items)
      (ht : taken = some t) : Contents o o' taken q items
  | moved {r x y} (hq : o.faces[q]? = some x) (hr : o.faces[r]? = some y) (he : o'.Edge r q) :
      Contents o o' taken q (x.items ++ y.items)

/-- What lies in a queue after a step is what lay there, with one item more at the end or one less
at the head, or with the items of a queue that was moved into it. -/
theorem Step.contents {o o' : Outline α} {made : Option (Request α)} {taken : Option (Taking α)}
    (h : o.Step made taken o') {q : QueueId} {x' : Face α} (hx : o'.faces[q]? = some x') :
    Contents o o' taken q x'.items := by
  have hset {r : Nat} {y z : Face α} (hy : o.faces[r]? = some y)
      (hx : (o.faces.set r z)[q]? = some x') (hz : r = q → Contents o o' taken q z.items) :
      Contents o o' taken q x'.items := by
    rw [getElem?_set_of_getElem? hy] at hx
    split_ifs at hx with hr
    · cases hx
      exact hz hr
    · exact .same hx
  cases h with
  | rest => exact .same hx
  | addQueue =>
    rw [List.getElem?_append] at hx
    split_ifs at hx with hl
    · exact .same hx
    · rw [List.getElem?_singleton] at hx
      split_ifs at hx
      cases hx
      exact .nothing
  | call hq => exact .same hx
  | follow hc hq => exact .same hx
  | fail hc hs => exact .same hx
  | store hc hq =>
    refine hset hq hx ?_
    rintro rfl
    exact .stored hc hq
  | take hc hq =>
    refine hset hq hx ?_
    rintro rfl
    exact .taken hq rfl rfl
  | takeNow hq =>
    refine hset hq hx ?_
    rintro rfl
    exact .taken hq rfl rfl
  | @move source target moved items hn hs ht =>
    have hs' := getElem?_set_other ⟨.usable, items ++ moved, none⟩ hn hs
    rw [getElem?_set_of_getElem? hs'] at hx
    split_ifs at hx with hsq
    · cases hx
      exact .nothing
    · refine hset ht hx ?_
      rintro rfl
      refine .moved ht hs ⟨[], ?_⟩
      rw [getElem?_set_of_getElem? hs', if_pos rfl]
  | close hq => exact hset hq hx fun _ => .nothing

/-- An item that lies in a queue after a step was put there by its push, or it lay there, or
it lay in a queue that was moved there. -/
theorem Step.origin {o o' : Outline α} {made : Option (Request α)} {taken : Option (Taking α)}
    (h : o.Step made taken o') {q : QueueId} {x' : Face α} {p : α}
    (hx : o'.faces[q]? = some x') (hp : p ∈ x'.items) :
    (∃ c : Nat, o.calls[c]? = some (.push p, .facing q)) ∨
      ∃ r x, o.faces[r]? = some x ∧ p ∈ x.items ∧ (r = q ∨ o'.Edge r q) := by
  have hcontents := h.contents hx
  generalize x'.items = held at hp hcontents
  cases hcontents with
  | nothing => cases hp
  | same hq => exact .inr ⟨q, _, hq, hp, .inl rfl⟩
  | stored hc hq =>
    rcases List.mem_append.mp hp with hm | hm
    · exact .inr ⟨q, _, hq, hm, .inl rfl⟩
    · obtain rfl := List.mem_singleton.mp hm
      exact .inl ⟨_, hc⟩
  | taken hq hi ht => exact .inr ⟨q, _, hq, hi ▸ List.mem_cons_of_mem _ hp, .inl rfl⟩
  | moved hq hr he =>
    rcases List.mem_append.mp hp with hm | hm
    · exact .inr ⟨q, _, hq, hm, .inl rfl⟩
    · exact .inr ⟨_, _, hr, hm, .inr he⟩

/-- An item that is taken was the head of a queue. -/
theorem Step.head {o o' : Outline α} {made : Option (Request α)} {t : Taking α}
    (h : o.Step made (some t) o') :
    ∃ (q : Nat) (x : Face α) (items : List α),
      o.faces[q]? = some x ∧ x.items = t.item :: items := by
  cases h with
  | take hc hq => exact ⟨_, _, _, hq, rfl⟩
  | takeNow hq => exact ⟨_, _, _, hq, rfl⟩

/-- A call that has to do with a queue after a step had to do with it before, or with one
that leads to it, or is new. -/
theorem Step.facing {o o' : Outline α} {made : Option (Request α)} {taken : Option (Taking α)}
    (h : o.Step made taken o') {c : Nat} {r : Request α} {q : QueueId}
    (hc : o'.calls[c]? = some (r, .facing q)) :
    (∃ p, o.calls[c]? = some (r, .facing p) ∧ (p = q ∨ o'.Edge p q)) ∨ c = o.calls.length := by
  have hset {d : Nat} {r' : Request α} {p : QueueId} {spot : Spot α}
      (hd : o.calls[d]? = some (r', .facing p))
      (hf : (o.calls.set d (r', spot))[c]? = some (r, .facing q))
      (hs : spot = .facing q → p = q ∨ o'.Edge p q) :
      ∃ p, o.calls[c]? = some (r, .facing p) ∧ (p = q ∨ o'.Edge p q) := by
    rw [getElem?_set_of_getElem? hd] at hf
    split_ifs at hf with hdc
    · subst hdc
      obtain ⟨rfl, he⟩ := Prod.mk.inj (Option.some.inj hf)
      exact ⟨p, hd, hs he⟩
    · exact ⟨q, hf, .inl rfl⟩
  cases h with
  | rest => exact .inl ⟨q, hc, .inl rfl⟩
  | addQueue => exact .inl ⟨q, hc, .inl rfl⟩
  | call hq =>
    rw [List.getElem?_append] at hc
    split_ifs at hc with hl
    · exact .inl ⟨q, hc, .inl rfl⟩
    · rw [List.getElem?_singleton] at hc
      split_ifs at hc with hi
      exact .inr (by omega)
  | follow hd hq =>
    refine .inl (hset hd hc ?_)
    rintro ⟨⟩
    exact .inr ⟨_, hq⟩
  | fail hd hs =>
    refine .inl (hset hd hc ?_)
    rintro rfl
    exact hs.elim
  | store hd hq => exact .inl (hset hd hc nofun)
  | take hd hq => exact .inl (hset hd hc nofun)
  | takeNow hq => exact .inl ⟨q, hc, .inl rfl⟩
  | move hn hs ht => exact .inl ⟨q, hc, .inl rfl⟩
  | close hq => exact .inl ⟨q, hc, .inl rfl⟩

/-! ## One push -/

/-- A push and its item stay on the route of a handle. -/
structure Routed (o : Outline (Parcel α)) (handle : QueueId) (p : Parcel α) : Prop where
  /-- The queue that the push has to do with is on the route. -/
  facing : ∀ {q : QueueId}, o.calls[p.sender]? = some (.push p, .facing q) → o.Routes handle q
  /-- The queue that the item lies in is on the route. -/
  lying : ∀ {q : QueueId} {x : Face (Parcel α)}, o.faces[q]? = some x → p ∈ x.items →
    o.Routes handle q

/-- A step leaves a push and its item on the route. -/
theorem Step.routed {o o' : Outline (Parcel α)} {made : Option (Request (Parcel α))}
    {taken : Option (Taking (Parcel α))} {before : List (Taking (Parcel α))}
    (h : o.Step made taken o') (hk : o.Kept before) {handle : QueueId} {p : Parcel α}
    (hl : p.sender < o.calls.length) (hr : o.Routed handle p) : o'.Routed handle p := by
  have hgo {q q' : QueueId} (hq : o.Routes handle q) (he : q = q' ∨ o'.Edge q q') :
      o'.Routes handle q' := by
    rcases he with rfl | he
    · exact h.routes hq
    · exact (h.routes hq).tail he
  constructor
  · intro q hc
    rcases h.facing hc with ⟨q', hc', he⟩ | hn
    · exact hgo (hr.facing hc') he
    · exact absurd hn (Nat.ne_of_lt hl)
  · intro q x hx hp
    rcases h.origin hx hp with ⟨c, hc⟩ | ⟨q', x', hx', hp', he⟩
    · obtain rfl := hk.marked hc
      exact h.routes (hr.facing hc)
    · exact hgo (hr.lying hx' hp') he

/-- A push that has just been made is on the route of its handle. -/
theorem Routed.of_new {o o' : Outline (Parcel α)} {before : List (Taking (Parcel α))}
    (hk : o.Kept before) {handle : QueueId} {p : Parcel α} (hs : p.sender = o.calls.length)
    (ho : o' = { o with calls := o.calls ++ [(.push p, .facing handle)] }) :
    o'.Routed handle p := by
  subst ho
  constructor
  · intro q hc
    rw [hs] at hc
    simp only [List.getElem?_concat_length] at hc
    cases hc
    exact .inl .refl
  · intro q x hx hp
    have hst := hk.stored hx hp
    rw [Stored, hs, List.getElem?_eq_none (Nat.le_refl _)] at hst
    cases hst

/-! ## Two pushes -/

/-- The second item comes behind the first one. -/
structure Behind (o : Outline (Parcel α)) (taken : List (Taking (Parcel α)))
    (first second : Parcel α) : Prop where
  /-- The first push has succeeded. -/
  stored : o.Stored first
  /-- As long as the first item lies in a queue, the second push is on its way there. -/
  facing : ∀ {y q : Nat} {x : Face (Parcel α)},
    o.calls[second.sender]? = some (.push second, .facing y) → o.faces[q]? = some x →
      first ∈ x.items → o.Routes y q
  /-- Before the second item lies the first one, or that was taken. -/
  lying : ∀ {q : Nat} {x : Face (Parcel α)}, o.faces[q]? = some x → second ∈ x.items →
    first ∈ taken.map (·.item) ∨ [first, second].Sublist x.items
  /-- Before the second item was taken the first one was. -/
  returned : second ∈ taken.map (·.item) → [first, second].Sublist (taken.map (·.item))

/-- A push that has succeeded stores nothing more. -/
theorem Stored.not_facing {o : Outline (Parcel α)} {before : List (Taking (Parcel α))}
    {p : Parcel α} (hs : o.Stored p) (hk : o.Kept before) (c q : Nat) :
    o.calls[c]? ≠ some (.push p, .facing q) := by
  intro hc
  obtain rfl := hk.marked hc
  rw [hs] at hc
  cases hc

/-- A step keeps the second push on its way to the first item. -/
theorem Step.behind_facing {o o' : Outline (Parcel α)} {made : Option (Request (Parcel α))}
    {taken : Option (Taking (Parcel α))} {before : List (Taking (Parcel α))}
    (h : o.Step made taken o') (hk : o.Kept before) (hc' : o'.Cleared) {first second : Parcel α}
    (hl : second.sender < o.calls.length) (hb : o.Behind before first second)
    {y' q' : Nat} {x' : Face (Parcel α)}
    (hc : o'.calls[second.sender]? = some (.push second, .facing y'))
    (hx : o'.faces[q']? = some x') (hp : first ∈ x'.items) : o'.Routes y' q' := by
  have hend : ∀ u, ¬ o'.Edge q' u := fun u => hc'.not_edge hx hp
  obtain ⟨y, hy, hyy⟩ := (h.facing hc).resolve_right (Nat.ne_of_lt hl)
  obtain ⟨q, x, hq, hpx, hqq⟩ :=
    (h.origin hx hp).resolve_left fun ⟨c, hf⟩ => hb.stored.not_facing hk c q' hf
  have hroute : o'.Routes y q' := by
    have hr := h.routes (hb.facing hy hq hpx)
    rcases hqq with rfl | he
    · exact hr
    · exact hr.tail he
  rcases hyy with rfl | he
  · exact hroute
  · exact hroute.extend (.single he) hend

/-- A step keeps the second item behind the first one in a queue. A first item that was taken
stays taken, and where the second push stores, the first item lies in this queue or was taken. -/
theorem Step.behind_lying {o o' : Outline (Parcel α)} {made : Option (Request (Parcel α))}
    {taken : Option (Taking (Parcel α))} {before : List (Taking (Parcel α))}
    (h : o.Step made taken o') (hk : o.Kept before) {first second : Parcel α}
    (hb : o.Behind before first second) {q : Nat} {x' : Face (Parcel α)}
    (hx : o'.faces[q]? = some x') (hp : second ∈ x'.items) :
    first ∈ (before ++ taken.toList).map (·.item) ∨ [first, second].Sublist x'.items := by
  have hkeep (ht : first ∈ before.map (·.item)) :
      first ∈ (before ++ taken.toList).map (·.item) := by
    rw [List.map_append]
    exact List.mem_append_left _ ht
  have hcontents := h.contents hx
  generalize x'.items = held at hp hcontents ⊢
  cases hcontents with
  | nothing => cases hp
  | same hq => exact (hb.lying hq hp).imp_left hkeep
  | @stored c p items hs hq =>
    rcases List.mem_append.mp hp with hm | hm
    · exact (hb.lying hq hm).imp hkeep (·.trans (List.sublist_append_left ..))
    · obtain rfl := List.mem_singleton.mp hm
      obtain rfl := hk.marked hs
      rcases hk.lies_or_taken hb.stored with ht | ⟨r, y, hr, hpy⟩
      · exact .inl (hkeep ht)
      · have hend : ∀ u, ¬ o.Edge q u := not_edge_of_serving hq
        rcases hb.facing hs hr hpy with hlead | ⟨d, z, hlead, hd, hz⟩
        · obtain rfl := hlead.eq_of_not_edge hend
          rw [hq] at hr
          cases hr
          exact .inr ((List.singleton_sublist.mpr hpy).append (List.Sublist.refl _))
        · obtain rfl := hlead.eq_of_not_edge hend
          rw [hq] at hd
          cases hd
          cases hz
  | @taken x t items hq hi ht =>
    rcases hb.lying hq (hi ▸ List.mem_cons_of_mem _ hp) with hf | hf
    · exact .inl (hkeep hf)
    · rw [hi] at hf
      cases hf with
      | cons _ hf => exact .inr hf
      | cons_cons _ hf =>
        refine .inl ?_
        rw [ht, List.map_append]
        exact List.mem_append_right _ (by simp)
  | moved hq hr he =>
    rcases List.mem_append.mp hp with hm | hm
    · exact (hb.lying hq hm).imp hkeep (·.trans (List.sublist_append_left ..))
    · exact (hb.lying hr hm).imp hkeep (·.trans (List.sublist_append_right ..))

/-- A step takes the second item after the first one. The second one cannot be the head of a queue
in which it lies behind the first. -/
theorem Step.behind_returned {o o' : Outline (Parcel α)} {made : Option (Request (Parcel α))}
    {taken : Option (Taking (Parcel α))} {before : List (Taking (Parcel α))}
    (h : o.Step made taken o') (hk : o.Kept before) {first second : Parcel α}
    (hn : first ≠ second) (hb : o.Behind before first second)
    (hp : second ∈ (before ++ taken.toList).map (·.item)) :
    [first, second].Sublist ((before ++ taken.toList).map (·.item)) := by
  rw [List.map_append] at hp ⊢
  rcases List.mem_append.mp hp with hm | hm
  · exact (hb.returned hm).trans (List.sublist_append_left ..)
  · cases taken with
    | none => cases hm
    | some t =>
      obtain rfl : second = t.item := by simpa using hm
      obtain ⟨q, x, items, hq, hi⟩ := h.head
      rcases hb.lying hq (hi ▸ List.mem_cons_self) with hf | hf
      · exact (List.singleton_sublist.mpr hf).append (List.Sublist.refl [t.item])
      · exfalso
        have hnd := hk.nodup_items hq
        rw [hi] at hf hnd
        cases hf with
        | cons _ hf => exact (List.nodup_cons.mp hnd).1 (hf.subset (by simp))
        | cons_cons _ hf => exact hn rfl

/-- A step keeps the second item behind the first one. -/
theorem Step.behind {o o' : Outline (Parcel α)} {made : Option (Request (Parcel α))}
    {taken : Option (Taking (Parcel α))} {before : List (Taking (Parcel α))}
    (h : o.Step made taken o') (hk : o.Kept before) (hc' : o'.Cleared) {first second : Parcel α}
    (hn : first ≠ second) (hl : second.sender < o.calls.length)
    (hb : o.Behind before first second) : o'.Behind (before ++ taken.toList) first second where
  stored := h.ended_kept hb.stored nofun
  facing := h.behind_facing hk hc' hl hb
  lying := h.behind_lying hk hb
  returned := h.behind_returned hk hn hb

/-- A push that is made after another one has succeeded, through a handle that leads to the
same queue, comes behind it. -/
theorem Behind.of_new {o o' : Outline (Parcel α)} {before : List (Taking (Parcel α))}
    (hk : o.Kept before) (hc : o.Cleared) {h₁ h₂ : QueueId} {first second : Parcel α}
    (hr : o.Routed h₁ first) (hs : o.Stored first) (hm : o.Meet h₁ h₂)
    (hn : second.sender = o.calls.length)
    (ho : o' = { o with calls := o.calls ++ [(.push second, .facing h₂)] }) :
    o'.Behind before first second := by
  subst ho
  have hnew : ¬ o.Stored second := by
    intro hst
    rw [Stored, hn, List.getElem?_eq_none (Nat.le_refl _)] at hst
    cases hst
  constructor
  · have hl := (List.getElem?_eq_some_iff.mp hs).1
    rw [Stored, List.getElem?_append_left hl]
    exact hs
  · intro y q x hy hx hp
    rw [hn] at hy
    simp only [List.getElem?_concat_length] at hy
    cases hy
    exact hm.routes (hr.lying hx hp) fun _ => hc.not_edge hx hp
  · intro q x hx hp
    exact absurd (hk.stored hx hp) hnew
  · intro hp
    exact absurd ((hk.mem_iff second).mp (List.mem_append_right _ hp)) hnew

end Outline

end Diameter.Queue
