import ClusterTopology.Proofs.Discoverer.Run
/-!
What a mailbox yields while nothing is put into it.

A publication can be far away: the control loop may be starting again after a panic, or may have ended
for good.  In the meantime a mailbox is moved by its reader alone.  The first look takes what was unread,
and every later look finds nothing.

`Box.After` says what a box has come to after some looks and what these have found: at most the first of
them finds something, and only what was unread before.  It is reflexive and transitive, and every action
that is not a deposit keeps it, so the run is an induction on its actions.  `looks` picks the looks at one
box out of the effects of a run.
-/

namespace ClusterTopology

/-! ### One box -/

/-- A box `b'` that was `b` before some looks of its reader, and has not been written since. -/
structure Box.After (b : Box) (looks : List (Option Snapshot)) (b' : Box) : Prop where
  content : b'.content = b.content
  deposits : b'.deposits = b.deposits
  found : looks = [] ∨ ∃ n, looks = b.unread :: List.replicate n none
  unread : b'.unread = if looks = [] then b.unread else none

namespace Box.After

theorem refl (b : Box) : b.After [] b := ⟨rfl, rfl, .inl rfl, by simp⟩

theorem look (b : Box) : b.After [b.unread] b.look := by
  refine ⟨rfl, rfl, .inr ⟨0, rfl⟩, ?_⟩
  rw [if_neg (List.cons_ne_nil _ _)]
  exact Box.unread_look b

theorem giveUp (b : Box) : b.After [] { b with held := false } := ⟨rfl, rfl, .inl rfl, rfl⟩

theorem trans {b b₁ b₂ : Box} {looks₁ looks₂ : List (Option Snapshot)} (h₁ : b.After looks₁ b₁)
    (h₂ : b₁.After looks₂ b₂) : b.After (looks₁ ++ looks₂) b₂ := by
  refine ⟨h₂.content.trans h₁.content, h₂.deposits.trans h₁.deposits, ?_, ?_⟩
  · rcases h₁.found with hnone | ⟨n, hsome⟩
    · have hsame : b₁.unread = b.unread := by rw [h₁.unread, if_pos hnone]
      rw [hnone, List.nil_append, ← hsame]
      exact h₂.found
    · -- what was unread is gone, so the later looks have found nothing
      have hgone : b₁.unread = none := by
        rw [h₁.unread, if_neg]
        simp [hsome]
      right
      rcases h₂.found with hnone | ⟨m, hmore⟩
      · exact ⟨n, by rw [hnone, List.append_nil, hsome]⟩
      · refine ⟨n + (m + 1), ?_⟩
        rw [hmore, hsome, hgone, List.cons_append, ← List.replicate_succ,
          List.replicate_append_replicate]
  · rw [h₂.unread, h₁.unread]
    by_cases hnone : looks₁ = []
    · simp [hnone]
    · simp [hnone]

end Box.After

namespace Registry

theorem getElem?_set_look {r : Registry} {i j : Nat} {b₁ b : Box} (hlook : r.box? j = some b₁)
    (hb : r.boxes[i]? = some b) :
    (r.set j b₁.look).boxes[i]? = some (if j = i then b.look else b) := by
  obtain ⟨hget, -⟩ := Option.filter_eq_some_iff.mp hlook
  by_cases hji : j = i
  · subst hji
    obtain ⟨hlt, -⟩ := List.getElem?_eq_some_iff.mp hb
    have hsame : b₁ = b := Option.some.inj (hget.symm.trans hb)
    simp [set, hlt, hsame]
  · simp [set, List.getElem?_set_ne hji, hji, hb]

theorem getElem?_giveUp {r : Registry} {i j : Nat} {b : Box} (hb : r.boxes[i]? = some b) :
    (r.giveUp j).boxes[i]? = some (if j = i then { b with held := false } else b) := by
  by_cases hji : j = i
  · subst hji
    simp [giveUp, hb]
  · simp [giveUp, List.getElem?_modify_ne _ _ hji, hji, hb]

theorem getElem?_deposit_ne {r : Registry} {i j : Nat} {x : Snapshot} (hji : j ≠ i) :
    (r.deposit j x).boxes[i]? = r.boxes[i]? := by
  simp [deposit, List.getElem?_modify_ne _ _ hji]

theorem getElem?_register {r : Registry} {i : Nat} {b : Box} (hb : r.boxes[i]? = some b) :
    r.register.boxes[i]? = some b := by
  obtain ⟨hlt, -⟩ := List.getElem?_eq_some_iff.mp hb
  simp [register, List.getElem?_append_left hlt, hb]

end Registry

/-! ### The looks of a reader -/

namespace Effect

/-- What the looks into mailbox `i` among effects have found, in order. -/
def looks (i : Nat) (es : List Effect) : List (Option Snapshot) :=
  es.filterMap fun
    | .received j found => if j = i then some found else none
    | _ => none

@[simp] theorem looks_append (i : Nat) (es₁ es₂ : List Effect) :
    looks i (es₁ ++ es₂) = looks i es₁ ++ looks i es₂ := by
  simp [looks]

theorem looks_eq_nil {i : Nat} {es : List Effect} (h : ∀ found, .received i found ∉ es) :
    looks i es = [] := by
  rw [looks, List.filterMap_eq_nil_iff]
  intro e he
  split
  · next j found =>
    refine if_neg ?_
    rintro rfl
    exact h found he
  · rfl

end Effect

namespace Discoverer

variable {setup : Setup}

/-- A step of a supervisor leaves the mailboxes alone or writes one of them. -/
theorem Supervisor.Goes.registry {sh : Shared} {m : SupervisorMove} {v : Supervisor}
    {t : Turn Supervisor} (hgoes : Goes setup sh m v t) :
    t.shared.registry = sh.registry ∨
      ∃ j x, t.shared.registry = sh.registry.deposit j x ∧ t.effects = [.deposited j x] := by
  cases hgoes with
  | control hgoes =>
    cases hgoes with
    | work ticker hgoes =>
      obtain ⟨⟨current, hshared⟩, -, -⟩ := hgoes.frame
      exact .inl (by simp [Turn.map, hshared])
    | deposit ticker f _ => exact .inr ⟨f.done, f.snapshot, rfl, rfl⟩
    | _ => exact .inl rfl
  | _ => exact .inl rfl

namespace State

/-- A step writes a mailbox, or leaves it to its reader. -/
theorem Goes.box_after {s s' : State} {a : Action} {es : List Effect} (hgoes : Goes setup s a s' es)
    {i : Nat} {b : Box} (hb : s.shared.registry.boxes[i]? = some b) :
    (∃ x, .deposited i x ∈ es) ∨
      ∃ b', s'.shared.registry.boxes[i]? = some b' ∧ b.After (Effect.looks i es) b' := by
  have hsame {s' : State} {es : List Effect} (hregistry : s'.shared.registry = s.shared.registry)
      (hes : ∀ found, .received i found ∉ es) :
      ∃ b', s'.shared.registry.boxes[i]? = some b' ∧ b.After (Effect.looks i es) b' := by
    rw [hregistry, Effect.looks_eq_nil hes]
    exact ⟨b, hb, .refl b⟩
  have hclosing : ∀ k events stage, ∃ b',
      (s.enterClosing k events stage).1.shared.registry.boxes[i]? = some b' ∧
        b.After (Effect.looks i (s.enterClosing k events stage).2) b' := by
    intro k events stage
    refine hsame ?_ ?_
    · rw [enterClosing_shared]
    · intro found hmem
      cases isOfRelease_of_mem_enterClosing hmem
  cases hgoes with
  | elapse d => exact .inr (hsame rfl (by simp))
  | subscribe _ => exact .inr ⟨b, Registry.getElem?_register hb, .refl b⟩
  | startAgain _ _ => exact .inr (hsame rfl (by simp))
  | start _ _ => exact .inr (hsame rfl (by simp))
  | close _ => exact .inr (hsame rfl (by simp))
  | drop _ _ => exact .inr (hsame rfl (by simp))
  | subscribed _ => exact .inr (hsame notify_registry (by simp))
  | spawned _ => exact .inr (hsame rfl (by simp))
  | left _ => exact .inr (hsame rfl (by simp))
  | taken _ _ => exact .inr (hsame rfl (by simp))
  | unsupervised _ _ => exact .inr (hclosing _ _ _)
  | joined _ _ => exact .inr (hclosing _ _ _)
  | sourceClosed _ _ => exact .inr (hclosing _ _ _)
  | @supervise k m v t hv hgoes =>
    have hnone : ∀ found, .received i found ∉ t.effects := by
      intro found hmem
      cases hgoes.isOfTask_of_mem hmem
    rcases hgoes.registry with hregistry | ⟨j, x, hregistry, heffects⟩
    · exact .inr (hsame hregistry hnone)
    · by_cases hji : j = i
      · exact .inl ⟨x, by simp [heffects, hji]⟩
      · right
        refine ⟨b, ?_, ?_⟩
        · simp only [adopt, hregistry]
          rw [Registry.getElem?_deposit_ne hji, hb]
        · rw [Effect.looks_eq_nil hnone]
          exact .refl b
  | stray _ hgoes =>
    obtain ⟨⟨current, hshared⟩, -, -⟩ := hgoes.frame
    refine .inr (hsame (by simp [hshared]) ?_)
    intro found hmem
    cases hgoes.isOfWorker_of_mem hmem
  | discard _ => exact .inr (hsame rfl (by simp))
  | @read j b₁ hlook =>
    right
    refine ⟨_, Registry.getElem?_set_look hlook hb, ?_⟩
    by_cases hji : j = i
    · subst hji
      obtain ⟨hget, -⟩ := Option.filter_eq_some_iff.mp hlook
      have hsame : b₁ = b := Option.some.inj (hget.symm.trans hb)
      simpa [Effect.looks, hsame] using Box.After.look b
    · simpa [Effect.looks, hji] using Box.After.refl b
  | @giveUp j b₁ _ =>
    right
    refine ⟨_, Registry.getElem?_giveUp hb, ?_⟩
    by_cases hji : j = i
    · simpa [Effect.looks, hji] using Box.After.giveUp b
    · simpa [Effect.looks, hji] using Box.After.refl b

end State

/-- **A mailbox that is not written in a run yields what was unread in it once, and then nothing.** -/
theorem box_after_run {as : List Action} {s s' : State} {es : List Effect}
    (hrun : run setup s as = some (s', es)) {i : Nat} {b : Box}
    (hb : s.shared.registry.boxes[i]? = some b) (hnone : ∀ x, .deposited i x ∉ es) :
    ∃ b', s'.shared.registry.boxes[i]? = some b' ∧ b.After (Effect.looks i es) b' := by
  have hstart : (∀ x, Effect.deposited i x ∉ []) →
      ∃ b', s.shared.registry.boxes[i]? = some b' ∧ b.After (Effect.looks i []) b' := by
    intro _
    exact ⟨b, hb, .refl b⟩
  have hkept := run_effects_induction
    (P := fun s past => (∀ x, .deposited i x ∉ past) →
      ∃ b', s.shared.registry.boxes[i]? = some b' ∧ b.After (Effect.looks i past) b')
    ?_ hrun hstart
  · exact hkept hnone
  · intro s s' past es a ih hgoes hnone
    obtain ⟨b₁, hb₁, hpast⟩ := ih fun x hx => hnone x (List.mem_append_left _ hx)
    rcases hgoes.box_after hb₁ with ⟨x, hx⟩ | ⟨b', hb', hafter⟩
    · exact absurd (List.mem_append_right _ hx) (hnone x)
    · rw [Effect.looks_append]
      exact ⟨b', hb', hpast.trans hafter⟩

end Discoverer

end ClusterTopology
