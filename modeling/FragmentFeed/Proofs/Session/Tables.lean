import FragmentFeed.Session.Basic

/-!
# The tables of a session

What is found in a session after something has been put into one of its tables. The lookups of
`Session` are led back to positions first; each change is then told by what it does to the loaders,
to who is referred to, and to the loads.
-/

namespace FragmentFeed

namespace Session

/-- The loader of a number, whether or not the program still refers to it. -/
def loader? (s : Session) (n : Nat) : Option Loader := s.slots[n]?.map (·.loader)

/-- Whether the program refers to a loader. -/
def isHeld (s : Session) (n : Nat) : Bool := (s.held? n).isSome

/-! ## Looking things up -/

section lookup

variable {s : Session} {n : Nat} {l : Loader}

theorem held?_eq_some_iff : s.held? n = some l ↔ s.slots[n]? = some ⟨l, true⟩ := by
  unfold held?
  split
  · next l' h => simp [h]
  · next h =>
    simp only [reduceCtorEq, false_iff]
    exact fun hs => h l hs

theorem loader?_of_held? (h : s.held? n = some l) : s.loader? n = some l := by
  rw [loader?, held?_eq_some_iff.mp h]; rfl

theorem isHeld_of_held? (h : s.held? n = some l) : s.isHeld n = true := by
  rw [isHeld, h]; rfl

theorem isHeld_eq : s.isHeld n = (s.slots[n]?.map (·.held)).getD false := by
  unfold isHeld held?
  cases hs : s.slots[n]? with
  | none => rfl
  | some slot => rcases slot with ⟨l, _ | _⟩ <;> rfl

theorem loader?_eq_none_iff : s.loader? n = none ↔ s.slots.length ≤ n := by
  simp [loader?]

theorem lt_length_of_loader? (h : s.loader? n = some l) : n < s.slots.length := by
  refine Nat.lt_of_not_le fun hn => ?_
  rw [loader?_eq_none_iff.mpr hn] at h
  cases h

theorem load?_eq_some_iff {k : Load} :
    s.load? n = some (k, l) ↔ s.loads[n]? = some k ∧ s.loader? k.loader = some l := by
  unfold load? loader?
  cases s.loads[n]? with
  | none => simp
  | some k' =>
    simp only [Option.map_eq_some_iff, Prod.mk.injEq, Option.some.injEq]
    constructor
    · rintro ⟨slot, hs, rfl, rfl⟩; exact ⟨rfl, slot, hs, rfl⟩
    · rintro ⟨rfl, slot, hs, rfl⟩; exact ⟨slot, hs, rfl, rfl⟩

theorem receiver?_eq_some_iff {r : Receiver} :
    s.receiver? n = some (r, l)
      ↔ s.receivers[n]? = some r ∧ r.live = true ∧ s.loader? r.loader = some l := by
  unfold receiver? loader?
  cases s.receivers[n]? with
  | none => simp
  | some r' =>
    by_cases hl : r'.live = true
    · simp only [if_pos hl, Option.map_eq_some_iff, Prod.mk.injEq, Option.some.injEq]
      constructor
      · rintro ⟨slot, hs, rfl, rfl⟩; exact ⟨rfl, hl, slot, hs, rfl⟩
      · rintro ⟨rfl, -, slot, hs, rfl⟩; exact ⟨slot, hs, rfl, rfl⟩
    · simp only [if_neg hl, reduceCtorEq, Option.some.injEq, false_iff]
      rintro ⟨rfl, h, -⟩; exact hl h

end lookup

/-! ## Putting things in place -/

section update

variable (s : Session) (n m : Nat) (l : Loader) (k : Load) (p : Phase) (r : Receiver)

@[simp] theorem setLoader_loads : (s.setLoader n l).loads = s.loads := rfl
@[simp] theorem setLoader_receivers : (s.setLoader n l).receivers = s.receivers := rfl
@[simp] theorem release_loads : (s.release n).loads = s.loads := rfl
@[simp] theorem release_receivers : (s.release n).receivers = s.receivers := rfl
@[simp] theorem setPhase_slots : (s.setPhase n p).slots = s.slots := rfl
@[simp] theorem setPhase_receivers : (s.setPhase n p).receivers = s.receivers := rfl
@[simp] theorem setReceiver_slots : (s.setReceiver n r).slots = s.slots := rfl
@[simp] theorem setReceiver_loads : (s.setReceiver n r).loads = s.loads := rfl
@[simp] theorem addLoader_loads : (s.addLoader l).loads = s.loads := rfl
@[simp] theorem addLoader_receivers : (s.addLoader l).receivers = s.receivers := rfl
@[simp] theorem addLoad_slots : (s.addLoad k).slots = s.slots := rfl
@[simp] theorem addLoad_loads : (s.addLoad k).loads = s.loads ++ [k] := rfl
@[simp] theorem addLoad_receivers : (s.addLoad k).receivers = s.receivers := rfl
@[simp] theorem addReceiver_slots : (s.addReceiver r).slots = s.slots := rfl
@[simp] theorem addReceiver_loads : (s.addReceiver r).loads = s.loads := rfl
@[simp] theorem addReceiver_receivers : (s.addReceiver r).receivers = s.receivers ++ [r] := rfl
@[simp] theorem setReceiver_receivers : (s.setReceiver n r).receivers = s.receivers.set n r := rfl

@[simp] theorem setLoader_slots_length : (s.setLoader n l).slots.length = s.slots.length := by
  simp [setLoader]

@[simp] theorem release_slots_length : (s.release n).slots.length = s.slots.length := by
  simp [release]

@[simp] theorem addLoader_slots_length : (s.addLoader l).slots.length = s.slots.length + 1 := by
  simp [addLoader]

theorem setPhase_getElem? :
    (s.setPhase n p).loads[m]?
      = (s.loads[m]?).map fun k => if m = n then { k with phase := p } else k := by
  rw [setPhase, List.getElem?_modify]
  by_cases h : m = n
  · simp [h]
  · simp [h, Ne.symm h]

@[simp] theorem loader?_setLoader :
    (s.setLoader n l).loader? m = (s.loader? m).map fun l' => if m = n then l else l' := by
  unfold loader? setLoader
  rw [List.getElem?_modify]
  by_cases h : m = n
  · cases s.slots[m]? <;> simp [h]
  · cases s.slots[m]? <;> simp [h, Ne.symm h]

@[simp] theorem loader?_release : (s.release n).loader? m = s.loader? m := by
  unfold loader? release
  rw [List.getElem?_modify]
  by_cases h : m = n
  · cases s.slots[m]? <;> simp [h]
  · cases s.slots[m]? <;> simp [Ne.symm h]

theorem loader?_congr {s s' : Session} (h : s'.slots = s.slots) : s'.loader? m = s.loader? m := by
  rw [loader?, loader?, h]

theorem loader?_addLoader :
    (s.addLoader l).loader? m = if m = s.slots.length then some l else s.loader? m := by
  unfold loader? addLoader
  rcases Nat.lt_trichotomy m s.slots.length with h | h | h
  · simp [List.getElem?_append_left h, Nat.ne_of_lt h]
  · simp [h]
  · have hn : s.slots.length < m + 1 := by omega
    simp [List.getElem?_append_right (Nat.le_of_lt h), Nat.ne_of_gt h, Nat.le_of_lt h,
      Nat.sub_ne_zero_of_lt h]

@[simp] theorem isHeld_setLoader : (s.setLoader n l).isHeld m = s.isHeld m := by
  rw [isHeld_eq, isHeld_eq, setLoader, List.getElem?_modify]
  by_cases h : n = m
  · cases s.slots[m]? <;> simp [h]
  · cases s.slots[m]? <;> simp [h]

@[simp] theorem isHeld_release : (s.release n).isHeld m = (s.isHeld m && m ≠ n) := by
  rw [isHeld_eq, isHeld_eq, release, List.getElem?_modify]
  by_cases h : m = n
  · cases s.slots[m]? <;> simp [h]
  · cases s.slots[m]? <;> simp [h, Ne.symm h]

theorem isHeld_congr {s s' : Session} (h : s'.slots = s.slots) : s'.isHeld m = s.isHeld m := by
  rw [isHeld_eq, isHeld_eq, h]

theorem isHeld_addLoader :
    (s.addLoader l).isHeld m = (s.isHeld m || m = s.slots.length) := by
  rw [isHeld_eq, isHeld_eq, addLoader]
  rcases Nat.lt_trichotomy m s.slots.length with h | h | h
  · simp [List.getElem?_append_left h, Nat.ne_of_lt h]
  · simp [h]
  · simp [List.getElem?_append_right (Nat.le_of_lt h), Nat.ne_of_gt h, Nat.le_of_lt h,
      Nat.sub_ne_zero_of_lt h]

/-- To put a loader in its own place changes nothing. -/
theorem setLoader_of_loader? {s : Session} {n : Nat} {l : Loader} (h : s.loader? n = some l) :
    s.setLoader n l = s := by
  have hslots : s.slots.modify n (fun slot => { slot with loader := l }) = s.slots := by
    refine List.ext_getElem? fun m => ?_
    rw [List.getElem?_modify]
    by_cases hm : n = m
    · subst hm
      rw [loader?] at h
      cases hslot : s.slots[n]? with
      | none => simp
      | some slot =>
        rw [hslot] at h
        obtain rfl : slot.loader = l := Option.some.inj h
        simp
    · cases s.slots[m]? <;> simp [hm]
  rw [setLoader, hslots]

theorem setLoader_self {s : Session} {n : Nat} {l : Loader} (h : s.held? n = some l) :
    s.setLoader n l = s :=
  setLoader_of_loader? (loader?_of_held? h)

/-- To put a load into its own phase changes nothing. -/
theorem setPhase_self {s : Session} {n : Nat} {k : Load} (h : s.loads[n]? = some k) :
    s.setPhase n k.phase = s := by
  have hs : s.loads.modify n (fun k' => { k' with phase := k.phase }) = s.loads := by
    apply List.ext_getElem?
    intro m
    rw [List.getElem?_modify]
    by_cases hm : n = m
    · subst hm; rw [h]; simp
    · cases s.loads[m]? <;> simp [hm]
  rw [setPhase, hs]

end update

end Session

end FragmentFeed
