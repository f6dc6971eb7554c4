import FragmentFeed.Proofs.Session.Transition

/-!
# Loads in flight

A load that waits goes on waiting until it is given something or stopped, whatever else is done in the
session.
-/

namespace FragmentFeed

/-- Whether a step leaves a load to itself: it neither gives it anything nor stops it. -/
def Step.spares (k : Nat) : Step → Prop
  | .deliver n _ => n ≠ k
  | .abort n => n ≠ k
  | _ => True

theorem Load.isWaiting_iff {load : Load} : load.isWaiting = true ↔ ∃ w, load.phase = .waiting w := by
  unfold isWaiting
  cases load.phase <;> simp

namespace Session

variable {ctx : Context} {s s' : Session} {t : Step} {c : Option Completion} {report : Report}
variable {n k : Nat} {load : Load} {w : Loader.Wait}

theorem Transition.slots_length_le (h : Transition ctx s t c s' report) :
    s.slots.length ≤ s'.slots.length := by
  cases h <;> simp [see]

/-- **A step that spares a waiting load leaves it as it is.** -/
theorem Transition.getElem?_of_spares (h : Transition ctx s t c s' report) (ht : t.spares k)
    (hk : s.loads[k]? = some load) (hw : load.phase = .waiting w) : s'.loads[k]? = some load := by
  have hlt : k < s.loads.length := (List.getElem?_eq_some_iff.mp hk).1
  cases h with
  | begin hl hs => rw [addLoad_loads, List.getElem?_append_left hlt]; exact hk
  | endAtOnce hl hr =>
    rw [addLoad_loads, setLoader_loads, List.getElem?_append_left hlt]; exact hk
  | goOn hk' hp hs => rw [setPhase_getElem?, hk, Option.map_some, if_neg (Ne.symm ht)]
  | finish hk' hp hr =>
    rw [setPhase_getElem?, setLoader_loads, hk, Option.map_some, if_neg (Ne.symm ht)]
  | stop hk' hp => rw [setPhase_getElem?, hk, Option.map_some, if_neg (Ne.symm ht)]
  | takeOutcome hk' hp =>
    -- the load asked for has ended, so it is another one
    rw [setPhase_getElem?, hk, Option.map_some, if_neg]
    rintro rfl
    rw [(load?_eq_some_iff.mp hk').1] at hk
    cases hk
    rw [hw] at hp
    cases hp
  | _ => exact hk

theorem slots_length_le_after (steps : List Step) :
    s.slots.length ≤ (s.after ctx steps).slots.length := by
  induction steps generalizing s with
  | nil => exact Nat.le_refl _
  | cons t steps ih =>
    rw [after_cons]
    exact Nat.le_trans (transition_step ctx s t).slots_length_le ih

/-- A load that waits is still there, waiting for the same, after steps that spare it. -/
theorem getElem?_after_of_spares {steps : List Step} (ht : ∀ t ∈ steps, t.spares k)
    (hk : s.loads[k]? = some load) (hw : load.phase = .waiting w) :
    (s.after ctx steps).loads[k]? = some load := by
  induction steps generalizing s with
  | nil => exact hk
  | cons t steps ih =>
    rw [after_cons]
    have hstep := (transition_step ctx s t).getElem?_of_spares (ht t (by simp)) hk hw
    exact ih (fun t' ht' => ht t' (by simp [ht'])) hstep

/-- A step that spares a waiting load does not end it. -/
theorem Transition.load_ne {e : Completion} (h : Transition ctx s t (some e) s' report)
    (ht : t.spares k) (hk : k < s.loads.length) : e.load ≠ some k := by
  cases h with
  | endAtOnce hl hr => intro he; cases he; exact Nat.lt_irrefl _ hk
  | endInPlace hl hr => exact nofun
  | finish hk' hp hr => intro he; cases he; exact ht rfl

theorem load_ne_of_mem_completions {steps : List Step} (h : ∀ t ∈ steps, t.spares k)
    (hk : s.loads[k]? = some load) (hw : load.phase = .waiting w) :
    ∀ e ∈ s.completions ctx steps, e.load ≠ some k := by
  induction steps generalizing s with
  | nil => intro e he; cases he
  | cons t steps ih =>
    intro e he
    have ht := transition_step ctx s t
    rw [completions, List.mem_append, Option.mem_toList] at he
    rcases he with he | he
    · rw [he] at ht
      exact ht.load_ne (h t (by simp)) (List.getElem?_eq_some_iff.mp hk).1
    · exact ih (fun t' ht' => h t' (by simp [ht'])) (ht.getElem?_of_spares (h t (by simp)) hk hw) e he

/-! ## The end of a load -/

/-- A step that ends a load leaves it ended. -/
theorem Transition.getElem?_of_load {r : Reply}
    (h : Transition ctx s t (some ⟨n, some k, r⟩) s' report) :
    s'.loads[k]? = some ⟨n, .finished (.ended r.ending) false⟩ := by
  cases h with
  | endAtOnce hl hr => rw [addLoad_loads, setLoader_loads, List.getElem?_concat_length]
  | finish hk hp hr =>
    rw [setPhase_getElem?, setLoader_loads, (load?_eq_some_iff.mp hk).1, Option.map_some,
      if_pos rfl]

/-- A load that waits ends with the reply that it is given. -/
theorem completion?_deliver {d : Delivery} {r : Reply} (hk : s.loads[k]? = some load)
    (hn : load.loader < s.slots.length) (hw : load.phase = .waiting w)
    (hr : (w.give ctx d).state = .inr r) :
    s.completion? ctx (.deliver k d) = some ⟨load.loader, some k, r⟩ := by
  obtain ⟨l, hl⟩ : ∃ l, s.loader? load.loader = some l := by
    rw [← Option.isSome_iff_exists, Option.isSome_iff_ne_none]
    exact fun h => absurd hn (Nat.not_lt.mpr (loader?_eq_none_iff.mp h))
  simp [completion?, load?_eq_some_iff.mpr ⟨hk, hl⟩, Load.wait?, hw, hr]

/-- What is given to a load that waits brings it on, or ends it. -/
theorem step_deliver {l : Loader} (d : Delivery) (hk : s.loads[k]? = some load)
    (hl : s.loader? load.loader = some l) (hw : load.phase = .waiting w) :
    s.step ctx (.deliver k d) =
      match (w.give ctx d).state with
      | .inl w' => (s.setPhase k (.waiting w'), ⟨.waiting, (w.give ctx d).trace⟩)
      | .inr r => s.finish k load l r (w.give ctx d).trace := by
  rw [step, withLoad, load?_eq_some_iff.mpr ⟨hk, hl⟩]
  exact deliver_eq hk hw

end Session

end FragmentFeed
