import FragmentFeed.Proofs.Config.Document

/-!
# Drafts

What has been noted of the members of an object, one after the other. A member can be noted unless it
says something of a field that has come up; when all have been noted, the draft is the configuration
that their entries say.
-/

namespace FragmentFeed.Config

variable {d : Draft} {m : Option Entry} {ms : List (Option Entry)}

namespace Draft

/-- Notes what a member says. -/
def note (d : Draft) : Option Entry → Draft
  | none => d
  | some (f, t) => d.set t f

/-- Whether what a member says can be noted: its field has not come up. -/
def Admits (d : Draft) (m : Option Entry) : Prop := ∀ f t, m = some (f, t) → d.get f = none

/-- Whether all that some members say can be noted. -/
def AdmitsAll (d : Draft) : List (Option Entry) → Prop
  | [] => True
  | m :: ms => d.Admits m ∧ (d.note m).AdmitsAll ms

theorem get_set (d : Draft) (t : Option String) (f g : Field) :
    (d.set t f).get g = if g = f then some t else d.get g := by
  cases f <;> cases g <;> rfl

/-- The fields that can be noted are those that have not come up, each once. -/
theorem admitsAll_iff : d.AdmitsAll ms ↔
    ((entries ms).map Prod.fst).Nodup ∧ ∀ e ∈ entries ms, d.get e.1 = none := by
  induction ms generalizing d with
  | nil => simp [AdmitsAll, entries]
  | cons m ms ih =>
    rw [AdmitsAll, ih]
    cases m with
    | none => simp [Admits, note, entries]
    | some e =>
      obtain ⟨f, t⟩ := e
      have hentries : entries (some (f, t) :: ms) = (f, t) :: entries ms := rfl
      have hadmits : d.Admits (some (f, t)) ↔ d.get f = none := by
        constructor
        · exact fun h => h f t rfl
        · rintro h g u ⟨⟩
          exact h
      rw [hentries, hadmits, List.map_cons, List.nodup_cons]
      show _ ∧ _ ∧ (∀ e ∈ entries ms, (d.set t f).get e.1 = none) ↔ _
      simp only [get_set]
      constructor
      · rintro ⟨hf, honce, hnone⟩
        refine ⟨⟨?_, honce⟩, ?_⟩
        · intro hmem
          obtain ⟨e, he, rfl⟩ := List.mem_map.mp hmem
          have := hnone e he
          rw [if_pos rfl] at this
          cases this
        · intro e he
          rcases List.mem_cons.mp he with rfl | he
          · exact hf
          · have := hnone e he
            split at this
            · cases this
            · exact this
      · rintro ⟨⟨hnot, honce⟩, hnone⟩
        refine ⟨hnone (f, t) (by simp), honce, ?_⟩
        intro e he
        have hne : e.1 ≠ f := by
          rintro rfl
          exact hnot (List.mem_map_of_mem he)
        rw [if_neg hne]
        exact hnone e (by simp [he])

/-- What has been noted of a field is what the members say of it. -/
theorem get_noteAll (h : d.AdmitsAll ms) (f : Field) :
    (ms.foldl note d).get f = ((entries ms).lookup f).or (d.get f) := by
  induction ms generalizing d with
  | nil => rfl
  | cons m ms ih =>
    obtain ⟨hm, hms⟩ := h
    rw [List.foldl_cons, ih hms]
    cases m with
    | none => rfl
    | some e =>
      obtain ⟨g, t⟩ := e
      have hentries : entries (some (g, t) :: ms) = (g, t) :: entries ms := rfl
      rw [hentries, note, get_set, List.lookup_cons]
      by_cases hf : f = g
      · subst hf
        -- the field has come up, so no later member tells it
        have hnot : (entries ms).lookup f = none := by
          rw [List.lookup_eq_none_iff]
          intro e he
          have := (admitsAll_iff.mp hms).2 e he
          rw [note, get_set] at this
          split at this
          · cases this
          · next hne => simpa using fun h => hne h.symm
        rw [hnot, if_pos rfl]
        simp
      · have hbeq : (f == g) = false := by simpa using hf
        rw [if_neg hf, hbeq]

/-- **What has been noted of all members is the configuration that their entries say.** -/
theorem finish_noteAll (h : empty.AdmitsAll ms) :
    (ms.foldl note empty).finish = ofEntries (entries ms) := by
  have hget : ∀ f, (ms.foldl note empty).get f = (entries ms).lookup f := by
    intro f
    have hnone : empty.get f = none := by cases f <;> rfl
    rw [get_noteAll h, hnone, Option.or_none]
  have hbase : (ms.foldl note empty).baseUrl = (entries ms).lookup .baseUrl := hget .baseUrl
  have hfilter : (ms.foldl note empty).logFilter = (entries ms).lookup .logFilter := hget .logFilter
  rw [finish, hbase, hfilter]
  rfl

end Draft

end FragmentFeed.Config
