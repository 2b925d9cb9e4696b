import LookML.Entity
/-!
# The names that fields answer to

Within its view a field answers to its own name, and a dimension group also to every name that it
generates: a timeframe after its own name, or an interval before it.
-/

namespace LookML

theorem length_pos_iff_ne_empty {s : String} : 0 < s.length ↔ s ≠ "" := by
  rw [Nat.pos_iff_ne_zero, ne_eq, String.length_eq_zero_iff]

namespace Member

theorem beginsProperly_iff {text beginning : String} :
    beginsProperly text beginning = true ↔ ∃ more, more ≠ "" ∧ text = beginning ++ more := by
  simp only [beginsProperly, Bool.and_eq_true, List.isPrefixOf_iff_prefix, decide_eq_true_eq]
  constructor
  · rintro ⟨⟨more, hmore⟩, hlt⟩
    obtain rfl : text = beginning ++ String.ofList more :=
      String.toList_inj.1 (by rw [String.toList_append, String.toList_ofList, hmore])
    rw [String.length_append] at hlt
    exact ⟨_, length_pos_iff_ne_empty.1 (by omega), rfl⟩
  · rintro ⟨more, hne, rfl⟩
    have hpos := length_pos_iff_ne_empty.2 hne
    refine ⟨⟨more.toList, (String.toList_append ..).symm⟩, ?_⟩
    rw [String.length_append]
    omega

theorem endsProperly_iff {text ending : String} :
    endsProperly text ending = true ↔ ∃ more, more ≠ "" ∧ text = more ++ ending := by
  simp only [endsProperly, Bool.and_eq_true, List.isSuffixOf_iff_suffix, decide_eq_true_eq]
  constructor
  · rintro ⟨⟨more, hmore⟩, hlt⟩
    obtain rfl : text = String.ofList more ++ ending :=
      String.toList_inj.1 (by rw [String.toList_append, String.toList_ofList, hmore])
    rw [String.length_append] at hlt
    exact ⟨_, length_pos_iff_ne_empty.1 (by omega), rfl⟩
  · rintro ⟨more, hne, rfl⟩
    have hpos := length_pos_iff_ne_empty.2 hne
    refine ⟨⟨more.toList, (String.toList_append ..).symm⟩, ?_⟩
    rw [String.length_append]
    omega

/-- The names that a dimension group generates. It is a group over durations if its type says so,
and one over times otherwise. Where it lists no timeframes or intervals, any will do. -/
inductive Generates (m : Member) : String → Prop
  | timeframe {listed : Value} {timeframe : String} :
      m.block.fieldType? ≠ some "duration" → m.block.get? "timeframes" = some listed →
      timeframe ∈ listed.texts → Generates m (m.name ++ "_" ++ timeframe)
  | anyTimeframe {timeframe : String} :
      m.block.fieldType? ≠ some "duration" → m.block.get? "timeframes" = none →
      timeframe ≠ "" → Generates m (m.name ++ "_" ++ timeframe)
  | interval {listed : Value} {interval : String} :
      m.block.fieldType? = some "duration" → m.block.get? "intervals" = some listed →
      interval ∈ listed.texts → Generates m (interval ++ "s_" ++ m.name)
  | anyInterval {interval : String} :
      m.block.fieldType? = some "duration" → m.block.get? "intervals" = none →
      interval ≠ "" → Generates m (interval ++ ("s_" ++ m.name))

/-- A field answers to its own name, and a dimension group to those it generates. -/
inductive Answers (m : Member) : String → Prop
  | own : Answers m m.name
  | generated {name : String} : m.kind = .dimensionGroup → m.Generates name → Answers m name

variable {m : Member} {name : String}

theorem generates_iff : m.generates name = true ↔ m.Generates name := by
  unfold generates
  constructor
  · intro h
    split at h
    · rename_i hduration
      split at h
      · rename_i listed hlisted
        obtain ⟨interval, hmem, rfl⟩ := by simpa using h
        exact .interval hduration hlisted hmem
      · rename_i hlisted
        obtain ⟨interval, hne, rfl⟩ := endsProperly_iff.1 h
        exact .anyInterval hduration hlisted hne
    · rename_i hduration
      split at h
      · rename_i listed hlisted
        obtain ⟨timeframe, hmem, rfl⟩ := by simpa using h
        exact .timeframe hduration hlisted hmem
      · rename_i hlisted
        obtain ⟨timeframe, hne, rfl⟩ := beginsProperly_iff.1 h
        exact .anyTimeframe hduration hlisted hne
  · intro h
    cases h with
    | timeframe htime hlisted hmem => simpa [htime, hlisted] using hmem
    | anyTimeframe htime hlisted hne =>
      simpa [htime, hlisted] using beginsProperly_iff.2 ⟨_, hne, rfl⟩
    | interval hduration hlisted hmem => simpa [hduration, hlisted] using hmem
    | anyInterval hduration hlisted hne =>
      simpa [hduration, hlisted] using endsProperly_iff.2 ⟨_, hne, rfl⟩

theorem answersTo_iff : m.answersTo name = true ↔ m.Answers name := by
  simp only [answersTo, Bool.or_eq_true, Bool.and_eq_true, decide_eq_true_eq, generates_iff]
  constructor
  · rintro (rfl | ⟨hgroup, hname⟩)
    · exact .own
    · exact .generated hgroup hname
  · rintro (_ | ⟨hgroup, hname⟩)
    · exact .inl rfl
    · exact .inr ⟨hgroup, hname⟩

end Member

namespace Entity

theorem isSome_resolveField?_iff {view : Entity} {name : String} :
    (view.resolveField? name).isSome ↔ ∃ f ∈ view.fields, f.Answers name := by
  rw [resolveField?, field?, Option.isSome_or, Bool.or_eq_true, List.find?_isSome, List.find?_isSome]
  constructor
  · rintro (⟨f, hf, hname⟩ | ⟨f, hf, hname⟩)
    · exact ⟨f, hf, of_decide_eq_true hname ▸ .own⟩
    · exact ⟨f, hf, Member.answersTo_iff.1 hname⟩
  · rintro ⟨f, hf, hname⟩
    exact .inr ⟨f, hf, Member.answersTo_iff.2 hname⟩

end Entity

end LookML
