import Diameter.Shutdown.Basic
import Mathlib.Logic.Relation
import Mathlib.Tactic.Common

/-!
# The tree of tokens

Every token but the root was derived from an older one, so a token is cancelled exactly if it or
one of those that it was derived from has been marked. From this it follows how far a
cancellation reaches: to the token itself and to what was derived from it, by however many steps,
and nowhere else.

Whatever happens to the event, no token goes away, none changes its place in the tree, no mark
is taken off, and a reason that was noted stays. So what is cancelled is cancelled for ever, and
who has read a reason will read the same one.
-/

namespace Diameter.Shutdown

/-- The tokens are a tree: the first is its root, and every other was derived from an older
one. -/
structure IsTree (s : Shutdown) : Prop where
  /-- The first token was not derived. -/
  first : ∃ marked, s.tokens[root]? = some ⟨none, marked⟩
  /-- Every other was, from one that was there before. -/
  older : ∀ (t : TokenId) (token : Token), s.tokens[t]? = some token → t ≠ root →
    ∃ above < t, token.parent = some above

/-- The second token was derived from the first. -/
def Derives (s : Shutdown) (t u : TokenId) : Prop :=
  ∃ marked, s.tokens[u]? = some ⟨some t, marked⟩

/-- The second token is the first or comes from it by any number of steps. -/
def Reaches (s : Shutdown) : TokenId → TokenId → Prop := Relation.ReflTransGen s.Derives

/-- What may have become of the event after a while. -/
structure Extends (s s' : Shutdown) : Prop where
  /-- The tokens are where they were, and those that were marked still are. -/
  tokens : ∀ (t : TokenId) (above : Option TokenId) (marked : Bool),
    s.tokens[t]? = some ⟨above, marked⟩ →
      ∃ later, s'.tokens[t]? = some ⟨above, later⟩ ∧ (marked = true → later = true)
  /-- The reason stays. -/
  reason : ∀ r, s.reason = some r → s'.reason = some r

variable {s s' s'' : Shutdown} {t u : TokenId}

/-! ## What the operations do to the tokens -/

/-- Cancelling marks one token and no other. -/
theorem getElem?_cancel (s : Shutdown) (t u : TokenId) : (s.cancel t).tokens[u]? =
    if u = t then s.tokens[u]?.map fun token => { token with marked := true }
    else s.tokens[u]? := by
  rw [cancel, List.getElem?_modify]
  by_cases h : u = t
  · rw [if_pos h]
    exact congrArg (· <$> s.tokens[u]?) (funext fun token => if_pos h.symm)
  · rw [if_neg h]
    have hsame : (fun token : Token => if t = u then { token with marked := true } else token) =
        id := funext fun token => if_neg fun hu => h hu.symm
    rw [hsame, id_map]

/-- A new token is the last one, with its parent and without a mark. -/
theorem getElem?_child (s : Shutdown) {t u : TokenId} {token : Token} :
    (s.child t).2.tokens[u]? = some token ↔
      s.tokens[u]? = some token ∨ (u = s.tokens.length ∧ token = ⟨some t, false⟩) := by
  rw [child]
  dsimp only
  rcases Nat.lt_trichotomy u s.tokens.length with h | rfl | h
  · rw [List.getElem?_append_left h]
    exact ⟨.inl, fun hu => hu.resolve_right fun hlast => Nat.ne_of_lt h hlast.1⟩
  · rw [List.getElem?_concat_length, List.getElem?_eq_none (Nat.le_refl _)]
    simp [eq_comm]
  · have hnone : (s.tokens ++ [⟨some t, false⟩])[u]? = none :=
      List.getElem?_eq_none (by rw [List.length_append]; exact h)
    rw [hnone, List.getElem?_eq_none (Nat.le_of_lt h)]
    simp [Nat.ne_of_gt h]

theorem length_child (s : Shutdown) (t : TokenId) :
    (s.child t).2.tokens.length = s.tokens.length + 1 := List.length_append

/-- Noting a reason leaves the tokens alone, and what was noted before. -/
theorem note_eq (s : Shutdown) (reason : ShutdownReason) :
    s.note reason = (s.reason.isNone, { s with reason := some (s.reason.getD reason) }) := by
  unfold note
  rcases s with ⟨_ | _, tokens⟩ <;> rfl

/-- A second reason is not noted. -/
theorem note_of_some {r : ShutdownReason} (h : s.reason = some r) (reason : ShutdownReason) :
    (s.note reason).2 = s := by
  unfold note
  rw [h]

theorem tokens_note (s : Shutdown) (reason : ShutdownReason) :
    (s.note reason).2.tokens = s.tokens := by
  rw [note_eq]

/-- Raising the event is noting the reason and, for the first one who does, cancelling the root. -/
theorem trigger_eq (s : Shutdown) (reason : ShutdownReason) : s.trigger reason =
    (s.reason.isNone,
      if s.reason.isNone then (s.note reason).2.cancel root else (s.note reason).2) := by
  unfold trigger note
  rcases s with ⟨_ | _, tokens⟩ <;> rfl

/-- Raising the event leaves its first reason. -/
theorem reason_trigger (s : Shutdown) (reason : ShutdownReason) :
    (s.trigger reason).2.reason = some (s.reason.getD reason) := by
  unfold trigger note
  rcases s with ⟨_ | first, tokens⟩ <;> rfl

/-- Whoever has raised the event, there is a reason after that. -/
theorem exists_reason_trigger (s : Shutdown) (reason : ShutdownReason) :
    ∃ first, (s.trigger reason).2.reason = some first := ⟨_, s.reason_trigger reason⟩

/-! ## Later -/

theorem Extends.refl (s : Shutdown) : Extends s s :=
  ⟨fun _ _ marked h => ⟨marked, h, id⟩, fun _ => id⟩

theorem Extends.trans (h : Extends s s') (h' : Extends s' s'') : Extends s s'' := by
  refine ⟨fun t above marked ht => ?_, fun r hr => h'.reason r (h.reason r hr)⟩
  obtain ⟨between, hbetween, hfirst⟩ := h.tokens t above marked ht
  obtain ⟨later, hlater, hsecond⟩ := h'.tokens t above between hbetween
  exact ⟨later, hlater, hsecond ∘ hfirst⟩

theorem extends_cancel (s : Shutdown) (t : TokenId) : Extends s (s.cancel t) := by
  refine ⟨fun u above marked hu => ?_, fun _ => id⟩
  rw [getElem?_cancel, hu]
  split
  · exact ⟨true, rfl, fun _ => rfl⟩
  · exact ⟨marked, rfl, id⟩

theorem extends_child (s : Shutdown) (t : TokenId) : Extends s (s.child t).2 :=
  ⟨fun _ _ marked hu => ⟨marked, s.getElem?_child.mpr (.inl hu), id⟩, fun _ => id⟩

theorem extends_note (s : Shutdown) (reason : ShutdownReason) : Extends s (s.note reason).2 := by
  refine ⟨fun u above marked hu => ⟨marked, ?_, id⟩, fun r hr => ?_⟩
  · rw [tokens_note]
    exact hu
  · rw [note_eq, hr]
    rfl

theorem extends_trigger (s : Shutdown) (reason : ShutdownReason) :
    Extends s (s.trigger reason).2 := by
  rw [trigger_eq]
  dsimp only
  split
  · exact (s.extends_note reason).trans (extends_cancel _ _)
  · exact s.extends_note reason

/-- A token that comes from another one still does in an extension. -/
theorem Extends.derives (h : Extends s s') (hd : s.Derives t u) : s'.Derives t u := by
  obtain ⟨marked, hu⟩ := hd
  obtain ⟨later, hlater, -⟩ := h.tokens u (some t) marked hu
  exact ⟨later, hlater⟩

/-- What comes from a token goes on to come from it. -/
theorem Extends.reaches (h : Extends s s') (hr : s.Reaches t u) : s'.Reaches t u :=
  hr.lift id fun _ _ => h.derives

/-- An extension has no fewer tokens. -/
theorem Extends.length_le (h : Extends s s') : s.tokens.length ≤ s'.tokens.length := by
  by_contra hlt
  have hlast : s'.tokens.length < s.tokens.length := Nat.lt_of_not_le hlt
  obtain ⟨later, hlater, -⟩ := h.tokens _ _ _ (List.getElem?_eq_getElem hlast)
  rw [List.getElem?_eq_none (Nat.le_refl _)] at hlater
  cases hlater

/-! ## The tree -/

theorem isTree_new : new.IsTree := by
  refine ⟨⟨false, rfl⟩, fun t token ht hroot => ?_⟩
  cases t with
  | zero => exact absurd rfl hroot
  | succ t => cases ht

/-- Cancelling keeps a tree. -/
theorem IsTree.cancel (h : s.IsTree) (t : TokenId) : (s.cancel t).IsTree := by
  refine ⟨?_, fun u token hu hroot => ?_⟩
  · obtain ⟨marked, hmarked⟩ := h.first
    obtain ⟨later, hlater, -⟩ := (s.extends_cancel t).tokens _ _ _ hmarked
    exact ⟨later, hlater⟩
  · rw [getElem?_cancel] at hu
    split at hu
    · obtain ⟨before, hbefore, rfl⟩ := Option.map_eq_some_iff.mp hu
      exact h.older u before hbefore hroot
    · exact h.older u token hu hroot

/-- A new token under one that is there keeps a tree. -/
theorem IsTree.child (h : s.IsTree) (ht : t < s.tokens.length) : (s.child t).2.IsTree := by
  refine ⟨?_, fun u token hu hroot => ?_⟩
  · obtain ⟨marked, hmarked⟩ := h.first
    exact ⟨marked, s.getElem?_child.mpr (.inl hmarked)⟩
  · obtain hu | ⟨rfl, rfl⟩ := s.getElem?_child.mp hu
    · exact h.older u token hu hroot
    · exact ⟨t, ht, rfl⟩

theorem IsTree.note (h : s.IsTree) (reason : ShutdownReason) : (s.note reason).2.IsTree := by
  have htokens := s.tokens_note reason
  refine ⟨?_, ?_⟩ <;> rw [htokens]
  · exact h.first
  · exact h.older

/-- Raising a shutdown keeps a tree. -/
theorem IsTree.trigger (h : s.IsTree) (reason : ShutdownReason) :
    (s.trigger reason).2.IsTree := by
  rw [trigger_eq]
  dsimp only
  split
  · exact (h.note reason).cancel root
  · exact h.note reason

/-- There is a root. -/
theorem IsTree.length_pos (h : s.IsTree) : 0 < s.tokens.length := by
  obtain ⟨_, hroot⟩ := h.first
  exact (List.getElem?_eq_some_iff.mp hroot).1

/-- A token is made after the one from which it comes. -/
theorem IsTree.lt_of_derives (h : s.IsTree) (hd : s.Derives t u) : t < u := by
  obtain ⟨marked, hu⟩ := hd
  have hroot : u ≠ root := by
    rintro rfl
    obtain ⟨_, hroot⟩ := h.first
    cases hroot.symm.trans hu
  obtain ⟨above, habove, heq⟩ := h.older u _ hu hroot
  obtain rfl : t = above := Option.some.inj heq
  exact habove

/-- A token is made no earlier than those that reach it. -/
theorem IsTree.le_of_reaches (h : s.IsTree) (hr : s.Reaches t u) : t ≤ u := by
  induction hr with
  | refl => exact Nat.le_refl t
  | tail _ hd ih => exact Nat.le_trans ih (Nat.le_of_lt (h.lt_of_derives hd))

/-- Every token comes from the root. -/
theorem IsTree.reaches_root (h : s.IsTree) (hu : u < s.tokens.length) : s.Reaches root u := by
  induction u using Nat.strongRecOn with
  | _ u ih =>
    by_cases hroot : u = root
    · rw [hroot]
      exact .refl
    · have htoken := List.getElem?_eq_getElem hu
      obtain ⟨above, habove, hparent⟩ := h.older u _ htoken hroot
      have hd : s.Derives above u := ⟨s.tokens[u].marked, by rw [htoken, ← hparent]⟩
      exact (ih above habove (Nat.lt_trans habove hu)).tail hd

/-- The root comes from no other token. -/
theorem IsTree.not_reaches_root (h : s.IsTree) (ht : t ≠ root) : ¬s.Reaches t root :=
  fun hr => ht (Nat.le_zero.mp (h.le_of_reaches hr))

/-- Of two tokens that were derived from the same one, neither comes from the other. -/
theorem IsTree.not_reaches_sibling (h : s.IsTree) {above : TokenId} (ht : s.Derives above t)
    (hu : s.Derives above u) (hne : t ≠ u) : ¬s.Reaches t u := by
  intro hr
  obtain heq | ⟨between, hreach, hlast⟩ := Relation.ReflTransGen.cases_tail hr
  · exact hne heq.symm
  · obtain ⟨_, hu⟩ := hu
    obtain ⟨_, hlast⟩ := hlast
    obtain rfl : between = above := by
      cases hlast.symm.trans hu
      rfl
    have hle := h.le_of_reaches hreach
    exact Nat.lt_irrefl _ (Nat.lt_of_le_of_lt hle (h.lt_of_derives ht))

/-! ## What is cancelled -/

/-- A token that is not further from the root than the search goes is found to be cancelled
exactly if it comes from one that is marked. -/
theorem IsTree.isCancelledWithin_iff (h : s.IsTree) {height : Nat} (hu : u < height) :
    s.isCancelledWithin height u = true ↔
      ∃ t above, s.tokens[t]? = some ⟨above, true⟩ ∧ s.Reaches t u := by
  induction height generalizing u with
  | zero => cases hu
  | succ height ih =>
    unfold isCancelledWithin
    rcases htoken : s.tokens[u]? with _ | ⟨_ | parent, marked⟩
    · refine iff_of_false Bool.false_ne_true ?_
      rintro ⟨t, above, ht, hr⟩
      obtain heq | ⟨_, -, _, hlast⟩ := Relation.ReflTransGen.cases_tail hr
      · rw [heq, ht] at htoken
        cases htoken
      · rw [hlast] at htoken
        cases htoken
    · refine ⟨fun hm => ?_, ?_⟩
      · obtain rfl : marked = true := by simpa using hm
        exact ⟨u, none, htoken, .refl⟩
      · rintro ⟨t, above, ht, hr⟩
        obtain heq | ⟨_, -, _, hlast⟩ := Relation.ReflTransGen.cases_tail hr
        · rw [heq, ht] at htoken
          cases htoken
          rfl
        · cases hlast.symm.trans htoken
    · have hd : s.Derives parent u := ⟨marked, htoken⟩
      have hbelow : parent < height :=
        Nat.lt_of_lt_of_le (h.lt_of_derives hd) (Nat.le_of_lt_succ hu)
      dsimp only
      rw [Bool.or_eq_true, ih hbelow]
      constructor
      · rintro (rfl | ⟨t, above, ht, hr⟩)
        · exact ⟨u, some parent, htoken, .refl⟩
        · exact ⟨t, above, ht, hr.tail hd⟩
      · rintro ⟨t, above, ht, hr⟩
        obtain heq | ⟨between, hreach, _, hlast⟩ := Relation.ReflTransGen.cases_tail hr
        · rw [heq, ht] at htoken
          cases htoken
          exact .inl rfl
        · cases hlast.symm.trans htoken
          exact .inr ⟨t, above, ht, hreach⟩

/-- A token is cancelled exactly if it comes from one that is marked. -/
theorem IsTree.isCancelled_iff (h : s.IsTree) : s.isCancelled u = true ↔
    ∃ t above, s.tokens[t]? = some ⟨above, true⟩ ∧ s.Reaches t u := by
  by_cases hu : u < s.tokens.length
  · exact h.isCancelledWithin_iff hu
  · have hnone : s.tokens[u]? = none := List.getElem?_eq_none (Nat.le_of_not_lt hu)
    refine iff_of_false ?_ ?_
    · unfold isCancelled
      cases s.tokens.length with
      | zero => exact Bool.false_ne_true
      | succ n =>
        rw [isCancelledWithin, hnone]
        exact Bool.false_ne_true
    · rintro ⟨t, above, ht, hr⟩
      obtain heq | ⟨_, -, _, hlast⟩ := Relation.ReflTransGen.cases_tail hr
      · rw [heq, ht] at hnone
        cases hnone
      · rw [hlast] at hnone
        cases hnone

/-- The event has been raised exactly if the root is marked. -/
theorem IsTree.isTriggered_iff (h : s.IsTree) :
    s.isTriggered = true ↔ s.tokens[root]? = some ⟨none, true⟩ := by
  rw [isTriggered, h.isCancelled_iff]
  constructor
  · rintro ⟨t, above, ht, hr⟩
    obtain rfl : t = root := Nat.le_zero.mp (h.le_of_reaches hr)
    obtain ⟨marked, hroot⟩ := h.first
    cases hroot.symm.trans ht
    exact ht
  · exact fun hroot => ⟨root, none, hroot, .refl⟩

/-- What a token reaches is cancelled with it. -/
theorem IsTree.isCancelled_of_reaches (h : s.IsTree) (ht : s.isCancelled t = true)
    (hr : s.Reaches t u) : s.isCancelled u = true := by
  obtain ⟨v, above, hv, hvt⟩ := h.isCancelled_iff.mp ht
  exact h.isCancelled_iff.mpr ⟨v, above, hv, hvt.trans hr⟩

/-- Once the event has been raised, all tokens are cancelled. -/
theorem IsTree.isCancelled_of_isTriggered (h : s.IsTree) (ht : s.isTriggered = true)
    (hu : u < s.tokens.length) : s.isCancelled u = true :=
  h.isCancelled_of_reaches ht (h.reaches_root hu)

/-- What is cancelled stays cancelled. -/
theorem Extends.isCancelled (h : Extends s s') (hs : s.IsTree) (hs' : s'.IsTree)
    (hu : s.isCancelled u = true) : s'.isCancelled u = true := by
  obtain ⟨t, above, ht, hr⟩ := hs.isCancelled_iff.mp hu
  obtain ⟨later, hlater, hmarked⟩ := h.tokens t above true ht
  obtain rfl := hmarked rfl
  exact hs'.isCancelled_iff.mpr ⟨t, above, hlater, h.reaches hr⟩

/-- Cancelling leaves where the tokens come from. -/
theorem derives_cancel (s : Shutdown) (t : TokenId) : (s.cancel t).Derives = s.Derives := by
  funext v u
  refine propext ⟨fun ⟨marked, hu⟩ => ?_, (s.extends_cancel t).derives⟩
  rw [getElem?_cancel] at hu
  split at hu
  · obtain ⟨⟨parent, before⟩, hbefore, heq⟩ := Option.map_eq_some_iff.mp hu
    cases heq
    exact ⟨before, hbefore⟩
  · exact ⟨marked, hu⟩

/-- Cancelling a token cancels it, what comes from it, and nothing else. -/
theorem IsTree.isCancelled_cancel_iff (h : s.IsTree) (ht : t < s.tokens.length) :
    (s.cancel t).isCancelled u = true ↔ s.isCancelled u = true ∨ s.Reaches t u := by
  have hreaches : (s.cancel t).Reaches = s.Reaches :=
    congrArg Relation.ReflTransGen (s.derives_cancel t)
  rw [(h.cancel t).isCancelled_iff, h.isCancelled_iff, hreaches]
  constructor
  · rintro ⟨v, above, hv, hr⟩
    rw [getElem?_cancel] at hv
    split at hv
    · next heq => exact .inr (heq ▸ hr)
    · exact .inl ⟨v, above, hv, hr⟩
  · rintro (⟨v, above, hv, hr⟩ | hr)
    · obtain ⟨later, hlater, hmarked⟩ := (s.extends_cancel t).tokens v above true hv
      obtain rfl := hmarked rfl
      exact ⟨v, above, hlater, hr⟩
    · refine ⟨t, s.tokens[t].parent, ?_, hr⟩
      rw [getElem?_cancel, if_pos rfl, List.getElem?_eq_getElem ht]
      rfl

end Diameter.Shutdown
