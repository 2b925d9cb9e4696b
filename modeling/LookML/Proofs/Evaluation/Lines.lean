import LookML.Proofs.Evaluation.Locations
import LookML.Proofs.Project.Lines
/-!
# Findings on one line

Built-in rules put names, paths, options and counts in their messages, and what the SQL parser
complains of. So what they find has a message on one line if all of these keep to one line, and so
has the diagnostic of a rule that runs out of time.
-/

namespace LookML

/-! ## What messages are made of -/

/-- The message and the name of what the finding is about keep to one line. -/
structure Finding.InLine (f : Finding) : Prop where
  message : OneLine f.message
  entity : ∀ e ∈ f.entity, OneLine e

/-- What the options put in messages keeps to one line. -/
structure RuleOptions.InLine (options : RuleOptions) : Prop where
  pattern : OneLine options.pattern
  questionStarts : ∀ start ∈ options.questionStarts, OneLine start
  forbidden : ∀ phrase ∈ options.forbidden, OneLine phrase

theorem RuleOptions.inLine_standard : RuleOptions.standard.InLine :=
  ⟨by decide, by decide, by decide⟩

namespace Rules

theorem oneLine_ite {f : Member} {message : String} (h : OneLine message) (c : Prop) [Decidable c] :
    ∀ x ∈ if c then [Finding.ofField f message] else [], OneLine x.message := by
  intro x hx
  split at hx
  · exact List.mem_singleton.1 hx ▸ h
  · cases hx

theorem oneLine_fileName {d : Document} (h : OneLine d.path) : OneLine d.fileName := by
  refine h.of_subset fun c hc => ?_
  rw [Document.fileName, Document.fileNameOf, String.toList_ofList, List.mem_reverse] at hc
  exact List.mem_reverse.1 ((List.takeWhile_sublist _).subset hc)

theorem oneLine_stem {d : Document} (h : OneLine d.path) : OneLine d.stem := by
  have hname := oneLine_fileName h
  unfold Document.stem
  cases hfound : Document.suffixes.findSome? (Document.stripEnding? d.fileName) with
  | none => exact hname
  | some stem =>
    obtain ⟨ending, _, hstrip⟩ := List.exists_of_findSome?_eq_some hfound
    obtain ⟨_, hstem⟩ := Option.ite_none_right_eq_some.1 hstrip
    obtain rfl := Option.some.inj hstem
    refine hname.of_subset ?_
    rw [Option.getD_some, String.toList_ofList]
    exact (List.take_sublist _ _).subset

theorem oneLine_nameOrEmpty {b : Block} (h : b.NamesInLine) : OneLine b.nameOrEmpty := by
  unfold Block.nameOrEmpty
  cases hname : b.name with
  | none => exact List.not_mem_nil
  | some name => exact h.name name hname

theorem inLine_ofView {view : Block} (h : view.NamesInLine) {message : String}
    (hmessage : OneLine message) : (Finding.ofView view message).InLine := by
  refine ⟨hmessage, ?_⟩
  rintro _ ⟨⟩
  simp +decide [oneLine_nameOrEmpty h]

theorem inLine_views {d : Document} (h : d.NamesInLine) : ∀ v ∈ d.views, v.NamesInLine :=
  fun v hv => (h.keepsLines v (List.mem_filter.1 hv).1).self

theorem inLine_definedViews {d : Document} (h : d.NamesInLine) :
    ∀ v ∈ definedViews d, v.NamesInLine :=
  fun v hv => inLine_views h v (List.mem_filter.1 hv).1

theorem inLine_repeatedProperties {what : String} (hwhat : OneLine what) {ps : List Property}
    (h : ∀ p ∈ ps, p.NamesInLine) : ∀ x ∈ repeatedProperties what ps, x.InLine := by
  intro x hx
  obtain ⟨⟨name, all⟩, hall, hx⟩ := List.mem_flatMap.1 hx
  obtain ⟨p, hp, rfl⟩ := List.mem_map.1 hx
  obtain rfl := eq_occurrences_of_mem_duplicates hall
  obtain ⟨hmem, hnamed⟩ := List.mem_filter.1 (List.mem_of_mem_drop hp)
  have hname : OneLine name := of_decide_eq_true hnamed ▸ (h p hmem).name
  refine ⟨?_, nofun⟩
  simp +decide [hname, hwhat]

theorem oneLine_describeBlock {b : Block} (h : b.NamesInLine) : OneLine (describeBlock b) := by
  unfold describeBlock
  split
  · rename_i name hname
    simp +decide [h.keyword, h.name name hname]
  · simp +decide [h.keyword]

theorem inLine_ofEntity {e : Entity} (h : e.InLine) {message : String}
    (hmessage : OneLine message) : (Finding.ofEntity e message).InLine := by
  refine ⟨hmessage, ?_⟩
  rintro _ ⟨⟩
  exact h.qualified

theorem inLine_primaryKey {view : Entity} (h : view.InLine) {x : Finding}
    (hx : primaryKeyFinding? view = some x) : x.InLine := by
  have hname : OneLine view.name := h.within.name
  unfold primaryKeyFinding? at hx
  split at hx
  · cases hx
  · split at hx
    · cases hx
    · cases hx
      exact inLine_ofEntity h (by simp +decide [hname])
    · cases hx
      have hparts : ∀ part ∈ (primaryKeys view).map Member.name, OneLine part :=
        List.forall_mem_map.2 fun key hkey => (h.field (List.mem_filter.1 hkey).1).1.name
      have hnames := oneLine_intercalate (by decide : OneLine ", ") hparts
      refine ⟨?_, (inLine_ofEntity h List.not_mem_nil : (Finding.ofEntity view "").InLine).entity⟩
      simp +decide [Finding.ofEntity, hname, hnames]

end Rules

namespace Magnitude

theorem oneLine_positional (digits : Nat) (exponent : Int) :
    OneLine (positional digits exponent) := by
  have hdigits := not_mem_toDigits digits
  have hzeros : ∀ n, '\n' ∉ List.replicate n '0' := by
    intro n hmem
    exact absurd (List.eq_of_mem_replicate hmem) (by decide)
  unfold positional
  split
  · rw [oneLine_ofList, List.mem_append, not_or]
    exact ⟨hdigits, hzeros _⟩
  · have hpadded : ∀ n, '\n' ∉ List.replicate n '0' ++ Nat.toDigits 10 digits := by
      intro n
      rw [List.mem_append, not_or]
      exact ⟨hzeros n, hdigits⟩
    rw [oneLine_ofList, List.mem_append, not_or]
    refine ⟨fun hmem => hpadded _ (List.mem_of_mem_take hmem), ?_⟩
    split
    · exact List.not_mem_nil
    · rw [List.mem_cons, not_or, List.mem_reverse]
      refine ⟨by decide, fun hmem => ?_⟩
      have hfraction := List.mem_reverse.1 ((List.dropWhile_sublist _).subset hmem)
      exact hpadded _ (List.mem_of_mem_drop hfraction)

theorem oneLine_render (m : Magnitude) : OneLine m.render := by
  unfold render
  split
  · decide
  · decide
  · decide
  · exact oneLine_positional _ _

end Magnitude

/-! ## Findings -/

variable [SqlParser]

/-- The SQL that a view's derived table is made by. -/
def Block.derivedSql? (view : Block) : Option String := do
  let derived ← (← view.get? "derived_table").block?
  (← derived.property? "sql").value.text?

/-- Whatever the parser complains of in the SQL of the document keeps to one line. -/
def Document.ComplaintsInLine (d : Document) : Prop :=
  ∀ view ∈ d.views, ∀ sql ∈ view.derivedSql?, ∀ complaint,
    SqlParser.parse (Reference.substitute sql Rules.referenceStandIn) = .error complaint →
      OneLine complaint

/-- The names in the document, its path and the complaints about it keep to one line. -/
structure Document.Shown (d : Document) : Prop where
  names : d.NamesInLine
  path : OneLine d.path
  located : d.Located fun l => OneLine l.path
  complaints : d.ComplaintsInLine

/-- So do those of the documents of the project, and what they make up. -/
structure Project.InLine (p : Project) : Prop where
  entities : ∀ e ∈ p.entities, e.InLine
  places : ∀ e ∈ p.entities, e.Located fun l => OneLine l.path
  documents : ∀ d ∈ p.documents, d.Shown

theorem Project.InLine.located {p : Project} (h : p.InLine) : p.Located fun l => OneLine l.path :=
  ⟨h.places, fun d hd => (h.documents d hd).located⟩

theorem Project.inLine_build [Extends.ComponentFinder] {documents : List Document}
    (h : ∀ d ∈ documents, d.Shown) :
    (build documents).1.InLine where
  entities := inLine_entities (List.forall_mem_flatMap.2 fun d hd => (h d hd).names.keepsLines)
  places := located_entities fun d hd => (h d hd).located
  documents := h

def Rule.KeepsLines (rule : Rule) : Prop :=
  ∀ p : Project, p.InLine → ∀ f ∈ rule.findings p, f.InLine

namespace Rule

variable {id : RuleId} {severity : Severity} {description : String}

theorem keepsLines_ofField {findings : Entity → Member → List Finding}
    (habout : ∀ e f, Rules.AboutField f (findings e f))
    (h : ∀ e f, f.InLine → ∀ x ∈ findings e f, OneLine x.message) :
    (ofField id severity description findings).KeepsLines := by
  intro p hp x hx
  obtain ⟨⟨e, f⟩, hmem, hx⟩ := List.mem_flatMap.1 hx
  obtain ⟨he, hf⟩ := Project.mem_entities_of_viewField hmem
  obtain ⟨hfield, hqualified⟩ := (hp.entities e he).field hf
  refine ⟨h e f hfield x hx, ?_⟩
  obtain ⟨message, rfl⟩ := habout e f x hx
  rintro _ ⟨⟩
  exact hqualified

theorem keepsLines_ofFile {findings : Document → List Finding}
    (h : ∀ d : Document, d.Shown → ∀ x ∈ findings d, x.InLine) :
    (ofFile id severity description findings).KeepsLines := by
  intro p hp x hx
  obtain ⟨d, hd, hx⟩ := List.mem_flatMap.1 hx
  exact h d (hp.documents d hd) x hx

theorem keepsLines_ofProject {findings : Project → List Finding}
    (h : ∀ p : Project, (∀ e ∈ p.entities, e.InLine) → ∀ x ∈ findings p, x.InLine) :
    (ofProject id severity description findings).KeepsLines := by
  intro p hp x hx
  rw [findings_ofProject] at hx
  exact h p hp.entities x hx

end Rule

namespace Rules

/-! ## Rules about fields -/

theorem keepsLines_description : description.KeepsLines := by
  refine Rule.keepsLines_ofField (fun _ => aboutField_description) fun _ f hf => ?_
  exact oneLine_ite (by simp +decide [hf.name, hf.keyword]) _

theorem keepsLines_drillDown : drillDown.KeepsLines := by
  refine Rule.keepsLines_ofField (fun _ => aboutField_drillDown) fun _ f hf => ?_
  exact oneLine_ite (by simp +decide [hf.name]) _

theorem keepsLines_yesnoName {starts : List String} (h : ∀ start ∈ starts, OneLine start) :
    (yesnoName starts).KeepsLines := by
  refine Rule.keepsLines_ofField (fun _ => aboutField_yesnoName starts) fun _ f hf => ?_
  have hchoices := oneLine_intercalate (by decide : OneLine ", ") h
  exact oneLine_ite (by simp +decide [hf.name, hchoices]) _

theorem keepsLines_countName : countName.KeepsLines := by
  refine Rule.keepsLines_ofField (fun _ => aboutField_countName) fun _ f hf => ?_
  exact oneLine_ite (by simp +decide [hf.name]) _

theorem keepsLines_allCaps : allCaps.KeepsLines := by
  refine Rule.keepsLines_ofField (fun _ => aboutField_allCaps) fun _ f hf => ?_
  exact oneLine_ite (by simp +decide [hf.name, hf.keyword]) _

theorem keepsLines_primaryKeyHidden : primaryKeyHidden.KeepsLines := by
  refine Rule.keepsLines_ofField (fun _ => aboutField_primaryKeyHidden) fun _ f hf => ?_
  exact oneLine_ite (by simp +decide [hf.name]) _

theorem keepsLines_fieldNaming (pattern : String → Bool) {spelling : String}
    (h : OneLine spelling) : (fieldNaming pattern spelling).KeepsLines := by
  refine Rule.keepsLines_ofField (fun _ => aboutField_fieldNaming pattern spelling) ?_
  intro _ f hf x hx
  unfold fieldNamingFindings at hx
  split at hx
  · cases hx
  · cases List.mem_singleton.1 hx
    simp +decide [Finding.ofField, hf.name, hf.keyword, h]

theorem keepsLines_lexicon {forbidden : List String} (h : ∀ phrase ∈ forbidden, OneLine phrase) :
    (lexicon forbidden).KeepsLines := by
  refine Rule.keepsLines_ofField (fun _ => aboutField_lexicon forbidden) ?_
  intro _ f hf x hx
  obtain ⟨⟨what, text⟩, hread, hx⟩ := List.mem_flatMap.1 hx
  obtain ⟨phrase, hphrase, rfl⟩ := List.mem_map.1 hx
  have hforbidden : OneLine phrase := h phrase (List.mem_filter.1 hphrase).1
  have hwhat : OneLine what := by
    rcases List.mem_cons.1 hread with hread | hread
    · cases hread
      decide
    · obtain ⟨key, hkey, hread⟩ := List.mem_filterMap.1 hread
      obtain ⟨_, _, hread⟩ := Option.map_eq_some_iff.1 hread
      cases hread
      exact (by decide : ∀ key ∈ ["label", "description"], OneLine key) _ hkey
  simp +decide [Finding.ofField, hf.name, hwhat, hforbidden]

/-! ## Rules about files -/

theorem keepsLines_dataSource : dataSource.KeepsLines := by
  refine Rule.keepsLines_ofFile fun d hd x hx => ?_
  obtain ⟨v, hv, rfl⟩ := List.mem_map.1 hx
  have hview := inLine_definedViews hd.names v (List.mem_filter.1 (List.mem_filter.1 hv).1).1
  exact inLine_ofView hview (by simp +decide [oneLine_nameOrEmpty hview])

theorem keepsLines_oneViewPerFile : oneViewPerFile.KeepsLines := by
  refine Rule.keepsLines_ofFile fun d hd x hx => ?_
  have hviews := inLine_definedViews hd.names
  unfold oneViewFindings at hx
  split at hx
  · rename_i first others hdefined
    rw [hdefined, List.forall_mem_cons] at hviews
    split at hx
    · obtain ⟨v, hv, rfl⟩ := List.mem_map.1 hx
      have hview := hviews.2 v hv
      refine ⟨?_, (inLine_ofView hview List.not_mem_nil : (Finding.ofView v "").InLine).entity⟩
      simp +decide [Finding.ofView, oneLine_fileName hd.path, oneLine_nameOrEmpty hview]
    · cases hx
  · cases hx

theorem keepsLines_filenameViewnameMatch : filenameViewnameMatch.KeepsLines := by
  refine Rule.keepsLines_ofFile fun d hd x hx => ?_
  have hviews := inLine_definedViews hd.names
  unfold filenameFindings at hx
  split at hx
  · rename_i first others hdefined
    rw [hdefined, List.forall_mem_cons] at hviews
    split at hx
    · cases List.mem_singleton.1 hx
      refine inLine_ofView hviews.1 ?_
      simp +decide [oneLine_fileName hd.path, oneLine_stem hd.path, oneLine_nameOrEmpty hviews.1]
    · cases hx
  · cases hx

theorem keepsLines_duplicateProperty : duplicateProperty.KeepsLines := by
  refine Rule.keepsLines_ofFile fun d hd x hx => ?_
  rcases List.mem_append.1 hx with hx | hx
  · have hfile : OneLine s!"file '{d.fileName}'" := by
      simp +decide [oneLine_fileName hd.path]
    exact inLine_repeatedProperties hfile hd.names.properties x hx
  · obtain ⟨b, hb, hx⟩ := List.mem_flatMap.1 hx
    have hblock := hd.names.blocks b hb
    exact inLine_repeatedProperties (oneLine_describeBlock hblock) hblock.properties x hx

theorem keepsLines_unknownBlockKind : unknownBlockKind.KeepsLines := by
  refine Rule.keepsLines_ofFile fun d hd x hx => ?_
  obtain ⟨b, hb, rfl⟩ := List.mem_map.1 hx
  have hblock := hd.names.blocks b (List.mem_filter.1 hb).1
  exact ⟨by simp +decide [hblock.keyword], nofun⟩

theorem oneLine_sqlProblem {view sql message : String} (h : OneLine view)
    (hcomplaint : ∀ complaint,
      SqlParser.parse (Reference.substitute sql referenceStandIn) = .error complaint →
        OneLine complaint)
    (hproblem : sqlProblem? view sql = some message) : OneLine message := by
  unfold sqlProblem? at hproblem
  split at hproblem
  · cases hproblem
  · split at hproblem
    · cases hproblem
      simp +decide [h]
    · split at hproblem
      · rename_i complaint hrefused
        cases hproblem
        simp +decide [h, hcomplaint complaint hrefused]
      · cases hproblem
      all_goals
        cases hproblem
        simp +decide [h]

theorem keepsLines_derivedTableSql : derivedTableSql.KeepsLines := by
  refine Rule.keepsLines_ofFile fun d hd x hx => ?_
  obtain ⟨v, hv, hx⟩ := List.mem_filterMap.1 hx
  have hview := inLine_views hd.names v hv
  obtain ⟨value, hvalue, hx⟩ := Option.bind_eq_some_iff.1 hx
  obtain ⟨derived, hderived, hx⟩ := Option.bind_eq_some_iff.1 hx
  obtain ⟨p, hp, hx⟩ := Option.bind_eq_some_iff.1 hx
  obtain ⟨sql, htext, hx⟩ := Option.bind_eq_some_iff.1 hx
  have hsql : v.derivedSql? = some sql := by
    simp [Block.derivedSql?, hvalue, hderived, hp, htext]
  obtain ⟨message, hproblem, hx⟩ := Option.bind_eq_some_iff.1 hx
  cases hx
  have hmessage := oneLine_sqlProblem (oneLine_nameOrEmpty hview) (hd.complaints v hv sql hsql)
    hproblem
  exact ⟨hmessage, (inLine_ofView hview hmessage).entity⟩

/-! ## Rules about the project -/

theorem keepsLines_primaryKey : primaryKey.KeepsLines := by
  refine Rule.keepsLines_ofProject fun p hp x hx => ?_
  obtain ⟨v, hv, hx⟩ := List.mem_filterMap.1 hx
  exact inLine_primaryKey (hp v (List.mem_filter.1 hv).1) hx

theorem keepsLines_noOrphans : noOrphans.KeepsLines := by
  refine Rule.keepsLines_ofProject fun p hp x hx => ?_
  obtain ⟨v, hv, rfl⟩ := List.mem_map.1 hx
  have hview := hp v (List.mem_filter.1 (List.mem_filter.1 hv).1).1
  have hname : OneLine v.name := hview.within.name
  exact inLine_ofEntity hview (by simp +decide [hname])

variable {options : RuleOptions} {pattern : String → Bool} {rule : Rule}

theorem keepsLines_builtIn (h : rule ∈ builtIn options pattern) (hoptions : options.InLine) :
    rule.KeepsLines := by
  simp only [builtIn, List.mem_cons, List.not_mem_nil, or_false] at h
  rcases h with rfl | rfl | rfl | rfl | rfl | rfl | rfl | rfl | rfl | rfl | rfl | rfl | rfl | rfl |
    rfl | rfl
  · exact keepsLines_description
  · exact keepsLines_drillDown
  · exact keepsLines_yesnoName hoptions.questionStarts
  · exact keepsLines_countName
  · exact keepsLines_allCaps
  · exact keepsLines_fieldNaming pattern hoptions.pattern
  · exact keepsLines_lexicon hoptions.forbidden
  · exact keepsLines_primaryKeyHidden
  · exact keepsLines_dataSource
  · exact keepsLines_oneViewPerFile
  · exact keepsLines_filenameViewnameMatch
  · exact keepsLines_duplicateProperty
  · exact keepsLines_unknownBlockKind
  · exact keepsLines_derivedTableSql
  · exact keepsLines_primaryKey
  · exact keepsLines_noOrphans

end Rules

/-! ## Rules that run out of time -/

namespace Instance

variable {p : Project}

theorem oneLine_subject (hp : p.InLine) (x : Instance p) :
    OneLine (x.scope.name x.subject) ∧ (∀ e ∈ x.scope.entity x.subject, OneLine e) ∧
      OneLine (x.scope.location x.subject).path := by
  cases x with
  | field i j =>
    have he : p.entities[i] ∈ p.entities := List.getElem_mem _
    have hf : p.entities[i].fields[j] ∈ p.entities[i].fields := List.getElem_mem _
    have hqualified := ((hp.entities _ he).field hf).2
    refine ⟨hqualified, ?_, ?_⟩
    · rintro _ ⟨⟩
      exact hqualified
    · exact (Block.located_iff.1 ((hp.places _ he).field hf)).1
  | file i =>
    have hpath := (hp.documents p.documents[i] (List.getElem_mem _)).path
    refine ⟨hpath, ?_, hpath⟩
    rintro _ ⟨⟩
  | project =>
    refine ⟨(by decide : OneLine "project"), ?_, (by decide : OneLine Scope.projectPath)⟩
    rintro _ ⟨⟩

end Instance

theorem Rules.oneLine_id {options : RuleOptions} {pattern : String → Bool} {rule : Rule}
    (h : rule ∈ builtIn options pattern) : OneLine rule.id.text := by
  have hids : ∀ id ∈ builtInIds, OneLine id := by
    decide
  exact hids _ (map_id_builtIn options pattern ▸ List.mem_map_of_mem h)

end LookML
