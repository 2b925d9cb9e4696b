import LookML.Proofs.Document.Lines
import LookML.Proofs.Project.Accounting
import LookML.Proofs.Project.Locations
import LookML.Proofs.Project.Names
import LookML.Proofs.Project.WellFormed
import LookML.Proofs.Reference.Extraction
/-!
# Names of a project on one line

Entities, their members and the problems between them have names that stand in the documents, or
are parts of such names. So they keep to one line if the names in the documents do.
-/

namespace LookML

open Extends

/-! ## Names in documents -/

theorem forall_mem_pair {α : Type} {P : α → Prop} {x y : α} : (∀ z ∈ [x, y], P z) ↔ P x ∧ P y := by
  simp

theorem Value.texts_of_text? {v : Value} {text : String} (h : v.text? = some text) :
    v.texts = [text] := by
  cases v <;> cases h
  rfl

theorem Reference.NamesField.oneLine {r : Reference} (h : r.NamesField) :
    (∀ scope ∈ r.scope, OneLine scope) ∧ OneLine r.name := by
  have hidentifier : ∀ s : String, isIdentifier s.toList = true → OneLine s :=
    fun s hs hmem => absurd (toNat_of_mem_identifier hs _ hmem).1 (by decide)
  exact ⟨fun scope hscope => hidentifier scope (h.scope scope hscope), hidentifier r.name h.name⟩

theorem Reference.NamesField.oneLine_render {r : Reference} (h : r.NamesField) :
    OneLine r.render := by
  obtain ⟨hscope, hname⟩ := h.oneLine
  unfold render
  split
  · rename_i scope heq
    simp +decide [hscope scope heq, hname]
  · simp +decide [hname]

theorem Project.namesField_of_mem {p : Property} {r : Reference} (h : r ∈ referencesOf p) :
    r.NamesField := by
  unfold referencesOf at h
  cases htext : p.value.text? with
  | none => simp [htext] at h
  | some text =>
    rw [htext] at h
    obtain ⟨_, _, hread⟩ := List.mem_filterMap.1 h
    exact (Reference.ofText?_eq_some_iff.1 hread).1

theorem Property.InLine.mentions {p : Property} (h : p.InLine) :
    ∀ name ∈ p.mentions, OneLine name := by
  intro name hname
  rcases List.mem_append.1 hname with hname | hname
  · rcases List.mem_append.1 hname with hname | hname
    · split at hname
      · rename_i hkey
        exact h.texts (by rw [hkey]; decide) name hname
      · cases hname
    · split at hname
      · rename_i hkey
        have htexts := Value.texts_of_text? (Option.mem_toList.1 hname)
        refine h.texts ?_ name (htexts ▸ List.mem_cons_self)
        rcases hkey with hkey | hkey <;> rw [hkey] <;> decide
      · cases hname
  · obtain ⟨r, hr, hscope⟩ := List.mem_filterMap.1 hname
    exact (Project.namesField_of_mem hr).oneLine.1 name hscope

/-- The property has a name on one line, and so are the names that it mentions. What else it is set
to may be longer. -/
structure Property.NamesInLine (p : Property) : Prop where
  name : OneLine p.name
  mentions : ∀ name ∈ p.mentions, OneLine name

/-- The keyword and the name of the block and the names in its properties keep to one line. -/
structure Block.NamesInLine (b : Block) : Prop where
  keyword : OneLine b.kind.keyword
  name : ∀ name ∈ b.name, OneLine name
  properties : ∀ p ∈ b.properties, p.NamesInLine

/-- So do those of all blocks in the document. -/
structure Document.NamesInLine (d : Document) : Prop where
  properties : ∀ p ∈ d.properties, p.NamesInLine
  blocks : ∀ b ∈ d.allBlocks, b.NamesInLine

theorem Property.InLine.names {p : Property} (h : p.InLine) : p.NamesInLine :=
  ⟨h.name, h.mentions⟩

theorem Document.InLine.names {d : Document} (h : d.InLine) : d.NamesInLine where
  properties := fun p hp => (h.properties p hp).names
  blocks := by
    intro b hb
    have hblock := h.blocks b (List.mem_append_right _ hb)
    exact ⟨hblock.keyword, hblock.name, fun p hp => (hblock.properties p hp).names⟩

/-- The names in the block and in its children keep to one line. -/
structure Block.KeepsLines (b : Block) : Prop where
  self : b.NamesInLine
  children : ∀ c ∈ b.children, c.NamesInLine

theorem Document.NamesInLine.keepsLines {d : Document} (h : d.NamesInLine) :
    ∀ b ∈ d.blocks, b.KeepsLines := by
  have hnested : ∀ b ∈ d.blocks, ∀ c ∈ b.descendants, c.NamesInLine :=
    fun b hb c hc => h.blocks c (Block.mem_descendantsOf.2 ⟨b, hb, hc⟩)
  intro b hb
  refine ⟨hnested b hb b (Block.mem_descendants.2 (.inl rfl)), fun c hc => ?_⟩
  have hself : c ∈ c.descendants := Block.mem_descendants.2 (.inl rfl)
  exact hnested b hb c (Block.mem_descendants.2 (.inr (.inr ⟨c, hc, hself⟩)))

theorem Declaration.exists_name {b : Block} {declaration : Declaration}
    (h : Declaration.ofBlock? b = some declaration) :
    ∃ name ∈ b.name, declaration.name.toList ⊆ name.toList := by
  unfold ofBlock? at h
  split at h
  · rename_i kind target _ hname
    obtain ⟨own, hown, hletters⟩ := Option.map_eq_some_iff.1 hname
    cases h
    refine ⟨own, hown, ?_⟩
    rw [hletters, Declaration.name, String.toList_ofList]
    exact List.subset_cons_self _ _
  · rename_i hname
    obtain ⟨own, hown, rfl⟩ := Option.map_eq_some_iff.1 hname
    obtain ⟨key, hkey, rfl⟩ := Option.map_eq_some_iff.1 h
    refine ⟨own, hown, ?_⟩
    rw [Declaration.name, Identifier.ofText?_eq_some_iff.1 hkey, String.toList_ofList]
    exact List.Subset.refl _
  · cases h

namespace Block.KeepsLines

variable {b : Block}

theorem names (h : b.KeepsLines) : ∀ name ∈ b.names, OneLine name := by
  have hmentions : ∀ {c : Block}, c.NamesInLine → ∀ name ∈ c.mentions, OneLine name := by
    intro c hc name hname
    obtain ⟨p, hp, hname⟩ := List.mem_flatMap.1 hname
    exact (hc.properties p hp).mentions name hname
  intro name hname
  rcases List.mem_append.1 hname with hname | hname
  · obtain ⟨declaration, hdeclares, rfl⟩ := Option.map_eq_some_iff.1 (Option.mem_toList.1 hname)
    obtain ⟨own, hown, hsub⟩ := Declaration.exists_name hdeclares
    exact (h.self.name own hown).of_subset hsub
  · rcases List.mem_append.1 hname with hname | hname
    · exact hmentions h.self name hname
    · obtain ⟨c, hc, hname⟩ := List.mem_flatMap.1 hname
      rcases List.mem_append.1 hname with hname | hname
      · obtain ⟨_, hjoin⟩ := Option.ite_none_right_eq_some.1 (Option.mem_toList.1 hname)
        exact (h.children c hc).name name hjoin
      · exact hmentions (h.children c hc) name hname

end Block.KeepsLines

/-! ## Entities -/

/-- The name and the keyword of the member keep to one line. -/
structure Member.InLine (m : Member) : Prop where
  name : OneLine m.name
  keyword : OneLine m.kind.keyword

/-- The names of the entity and of its members do. -/
structure Entity.InLine (e : Entity) : Prop where
  within : e.Within OneLine
  members : e.layer.AllMembers Member.InLine
  owned : e.layer.OwnedBy e.key.name

theorem EntityKind.oneLine_word (kind : EntityKind) : OneLine kind.word := by
  cases kind <;> decide

theorem EntityKey.oneLine_qualified {key : EntityKey} (h : OneLine key.name.text) :
    OneLine key.qualified := by
  simp +decide [qualified, EntityKind.oneLine_word, h]

theorem Entity.InLine.qualified {e : Entity} (h : e.InLine) : OneLine e.qualified :=
  EntityKey.oneLine_qualified h.within.name

theorem Entity.InLine.field {e : Entity} (h : e.InLine) {f : Member} (hf : f ∈ e.fields) :
    f.InLine ∧ OneLine f.qualified := by
  have hname := (h.members.fields f hf).name
  have howner : OneLine f.owner.text := by
    rw [h.owned.fields f hf]
    exact h.within.name
  refine ⟨h.members.fields f hf, ?_⟩
  simp +decide [Member.qualified, howner, hname]

namespace Project

variable {documents : List Document}

theorem inLine_entities [ComponentFinder]
    (h : ∀ b ∈ documents.flatMap Document.blocks, b.KeepsLines) :
    ∀ e ∈ (build documents).1.entities, e.InLine := by
  have hown : ∀ d ∈ definitions documents, d.layer.AllMembers Member.InLine := by
    intro d hd
    refine Definition.allMembers_layer (fun _ _ hm => ⟨hm.name, hm.keyword⟩) hd fun b hb => ?_
    refine Layer.allMembers_ofBlock fun child hchild name hname => ?_
    have hinline := (h b hb).children child hchild
    exact ⟨hinline.name name hname, hinline.keyword⟩
  intro e he
  refine ⟨within_entities (fun b hb => (h b hb).names) e he, ?_, ownedBy_of_mem he⟩
  obtain ⟨id, hid⟩ := List.mem_iff_getElem?.1 he
  rw [getElem?_entities, Option.map_eq_some_iff] at hid
  obtain ⟨d, hd, rfl⟩ := hid
  have hreplacing : ∀ old m : Member, m.InLine → (Member.replacing old m).InLine :=
    fun _ _ hm => ⟨hm.name, hm.keyword⟩
  exact forall_mergedAt Layer.allMembers_empty
    (fun hbottom htop => hbottom.overlay hreplacing htop)
    (fun hbase heir => hbase.bequeath (fun _ hm => ⟨hm.name, hm.keyword⟩) heir) hown hd

end Project

/-! ## Problems -/

def Unresolved.names : Unresolved → List String
  | undefinedTarget _ target => [target]
  | undefinedBaseView view => [view]
  | undefinedJoinView join view => [join, view]
  | unjoinedAlias r name => [r.render, name]
  | unknownScope r scope => [r.render, scope]
  | noSuchField r view => [r.render, view]

def ResolutionError.names : ResolutionError → List String
  | duplicateEntity entity .. | extendsTooDeep entity _ => [entity.name.text]
  | extendsCycle start path _ => start.name.text :: path.map fun key => key.name.text
  | extendsNotFound entity base _ => [entity.name.text, base.text]
  | unresolved user problem _ => user :: problem.names
  | duplicateMember entity name .. => [entity.text, name]

def ResolutionError.InLine (e : ResolutionError) : Prop :=
  ∀ name ∈ e.names, OneLine name

theorem Location.oneLine_render {l : Location} (h : OneLine l.path) : OneLine l.render := by
  unfold render
  split
  · exact h
  · simp +decide [h]

theorem Unresolved.oneLine_describe {u : Unresolved} (h : ∀ name ∈ u.names, OneLine name) :
    OneLine u.describe := by
  cases u <;> simp only [names, List.forall_mem_cons] at h <;>
    simp +decide [describe, h, EntityKind.oneLine_word]

namespace ResolutionError

variable {e : ResolutionError}

theorem oneLine_entity (h : e.InLine) : OneLine e.entity := by
  cases e <;> simp only [InLine, names, List.forall_mem_cons] at h <;>
    simp +decide [entity, h, EntityKey.oneLine_qualified]

theorem oneLine_message (h : e.InLine)
    (hfirst : ∀ l ∈ e.first?, OneLine l.path) : OneLine e.message := by
  have hrender : ∀ l ∈ e.first?, OneLine l.render :=
    fun l hl => Location.oneLine_render (hfirst l hl)
  unfold message
  cases e with
  | duplicateEntity entity location first =>
    have hentity := EntityKey.oneLine_qualified (h entity.name.text List.mem_cons_self)
    simp +decide [hentity, hrender first rfl]
  | extendsCycle start path location =>
    obtain ⟨_, hkeys⟩ := List.forall_mem_cons.1 h
    rw [List.forall_mem_map] at hkeys
    have hparts : ∀ part ∈ path.map EntityKey.qualified, OneLine part :=
      List.forall_mem_map.2 fun key hkey => EntityKey.oneLine_qualified (hkeys key hkey)
    have hpath := oneLine_intercalate (by decide : OneLine " -> ") hparts
    simp +decide [hpath]
  | extendsTooDeep entity location =>
    have hentity := EntityKey.oneLine_qualified (h entity.name.text List.mem_cons_self)
    simp +decide [hentity]
  | extendsNotFound entity base location =>
    have hentity := EntityKey.oneLine_qualified (h entity.name.text List.mem_cons_self)
    have hbase : OneLine base.text := h _ (List.mem_cons_of_mem _ List.mem_cons_self)
    simp +decide [hentity, hbase, EntityKind.oneLine_word]
  | unresolved user problem location =>
    obtain ⟨huser, hproblem⟩ := List.forall_mem_cons.1 h
    simp +decide [huser, Unresolved.oneLine_describe hproblem]
  | duplicateMember entity name location first =>
    obtain ⟨hentity, hname⟩ := List.forall_mem_cons.1 h
    simp +decide [hentity, hname, hrender first rfl]

end ResolutionError

/-! ## Collecting definitions -/

namespace Definition

variable {blocks : List Block} {e : ResolutionError}

theorem exists_of_mem_addAll
    {step : List Definition → Declaration → List Definition × List ResolutionError}
    {declarations : List Declaration} {ds : List Definition}
    (h : e ∈ (addAll step ds declarations).2) :
    ∃ ds', ∃ declaration ∈ declarations, e ∈ (step ds' declaration).2 := by
  induction declarations generalizing ds with
  | nil => cases h
  | cons declaration rest ih =>
    rcases List.mem_append.1 h with h | h
    · exact ⟨ds, declaration, List.mem_cons_self, h⟩
    · obtain ⟨ds', other, hother, h⟩ := ih h
      exact ⟨ds', other, List.mem_cons_of_mem _ hother, h⟩

theorem inLine_of_mem_ofBlock {owner : EntityName} (howner : OneLine owner.text) {b : Block}
    (hb : b.KeepsLines) (h : e ∈ (Layer.ofBlock owner b).2) : e.InLine := by
  obtain ⟨c, hc, name, hname, _, _, rfl⟩ := Layer.exists_of_mem_ofBlock h
  have hrepeated : OneLine name := (hb.children c hc).name name hname
  exact forall_mem_pair.2 ⟨howner, hrepeated⟩

theorem inLine_of_mem_define {key : EntityKey} (hkey : OneLine key.name.text) {b : Block}
    (hb : b.KeepsLines) {ds : List Definition} (h : e ∈ (define key b ds).2) : e.InLine := by
  induction ds with
  | nil => exact inLine_of_mem_ofBlock hkey hb h
  | cons d ds ih =>
    rw [define] at h
    split at h
    · cases List.mem_singleton.1 h
      exact List.forall_mem_singleton.2 hkey
    · exact ih h

theorem inLine_of_mem_refineTarget {kind : EntityKind} {target : String} (htarget : OneLine target)
    {b : Block} (hb : b.KeepsLines) {ds : List Definition}
    (h : e ∈ (refineTarget kind target b ds).2) : e.InLine := by
  rw [snd_refineTarget, refinementErrors] at h
  split at h
  · rename_i key hfind
    have hfound : (key.kind, key.name.text) = (kind, target) := by
      simpa using List.find?_some hfind
    have hname : key.name.text = target := congrArg Prod.snd hfound
    exact inLine_of_mem_ofBlock (hname ▸ htarget) hb h
  · cases List.mem_singleton.1 h
    refine forall_mem_pair.2 ⟨?_, htarget⟩
    simp +decide [EntityKind.oneLine_word, htarget]

theorem inLine_collect (h : ∀ b ∈ blocks, b.KeepsLines) : ∀ e ∈ (collect blocks).2, e.InLine := by
  intro e he
  have hnames := forall_declarations fun b hb => (h b hb).names
  rcases List.mem_append.1 he with he | he
  · obtain ⟨ds, declaration, hmem, he⟩ := exists_of_mem_addAll he
    have hname := hnames declaration hmem
    obtain ⟨b, hb, hdeclares⟩ := List.mem_filterMap.1 hmem
    cases declaration with
    | definition key b' =>
      obtain rfl := Declaration.block_of_definition hdeclares
      exact inLine_of_mem_define hname (h _ hb) he
    | refinement => cases he
  · obtain ⟨ds, declaration, hmem, he⟩ := exists_of_mem_addAll he
    have hname := hnames declaration hmem
    obtain ⟨b, hb, hdeclares⟩ := List.mem_filterMap.1 hmem
    cases declaration with
    | definition => cases he
    | refinement kind target b' =>
      obtain rfl := Declaration.block_of_refinement hdeclares
      exact inLine_of_mem_refineTarget hname (h _ hb) he

end Definition

/-! ## Main statements -/

namespace Project

variable {documents : List Document} {e : ResolutionError}

theorem inLine_of_mem_cycleErrors [ComponentFinder] {ds : List Definition}
    (h : ∀ d ∈ ds, OneLine d.key.name.text) (he : e ∈ Definition.cycleErrors ds) : e.InLine := by
  obtain ⟨members, _, he⟩ := List.mem_filterMap.1 he
  obtain ⟨start, _, he⟩ := Option.bind_eq_some_iff.1 he
  obtain ⟨d, hd, he⟩ := Option.bind_eq_some_iff.1 he
  cases he
  refine List.forall_mem_cons.2 ⟨h d (List.mem_of_getElem? hd), List.forall_mem_map.2 ?_⟩
  intro key hkey
  obtain ⟨v, _, hv⟩ := List.mem_filterMap.1 hkey
  obtain ⟨other, hother, rfl⟩ := Option.map_eq_some_iff.1 hv
  exact h other (List.mem_of_getElem? hother)

def StandsIn (p : Project) : Use → Prop
  | .baseView e => e ∈ p.entities
  | .joinView e j => e ∈ p.entities ∧ j ∈ e.joins
  | .exploreSql e property r => e ∈ p.entities ∧ r ∈ referencesOf property
  | .fieldSql v field property r => v ∈ p.entities ∧ field ∈ v.fields ∧ r ∈ referencesOf property

theorem standsIn_of_mem_uses {p : Project} {use : Use} (h : use ∈ p.uses) : p.StandsIn use := by
  rcases List.mem_append.1 h with h | h
  · obtain ⟨e, he, h⟩ := List.mem_flatMap.1 h
    have he : e ∈ p.entities := (List.mem_filter.1 (List.mem_filter.1 he).1).1
    rcases List.mem_append.1 h with h | h
    · rcases List.mem_cons.1 h with rfl | h
      · exact he
      · obtain ⟨j, hj, rfl⟩ := List.mem_map.1 h
        exact ⟨he, hj⟩
    · obtain ⟨property, _, h⟩ := List.mem_flatMap.1 h
      obtain ⟨r, hr, rfl⟩ := List.mem_map.1 h
      exact ⟨he, referencesOf_eq property ▸ hr⟩
  · obtain ⟨v, hv, h⟩ := List.mem_flatMap.1 h
    obtain ⟨field, hfield, h⟩ := List.mem_flatMap.1 h
    obtain ⟨property, _, h⟩ := List.mem_flatMap.1 h
    obtain ⟨r, hr, rfl⟩ := List.mem_map.1 h
    exact ⟨(List.mem_filter.1 (List.mem_filter.1 hv).1).1, hfield, referencesOf_eq property ▸ hr⟩

/-- What is missing has a name that its user, or another view of the project, has or uses. -/
theorem inLine_report {p : Project} (h : ∀ e ∈ p.entities, e.InLine) {use : Use}
    (huse : p.StandsIn use) {why : Unresolved} (hdangling : p.Dangling use why) :
    (use.report why).InLine := by
  have hrender : ∀ {property : Property} {r : Reference}, r ∈ referencesOf property →
      OneLine r.render := fun hr => (namesField_of_mem hr).oneLine_render
  have hscope : ∀ {property : Property} {r : Reference} {scope : String},
      r ∈ referencesOf property → r.scope = some scope → OneLine scope :=
    fun hr hscope => (namesField_of_mem hr).oneLine.1 _ hscope
  refine List.forall_mem_cons.2 ?_
  cases hdangling with
  | undefinedBaseView =>
    have he := h _ huse
    exact ⟨he.qualified, List.forall_mem_singleton.2 he.within.baseView⟩
  | undefinedJoinView =>
    have he := h _ huse.1
    have hjoin : OneLine _ := (he.within.layer.joins _ huse.2).1
    exact ⟨he.qualified, forall_mem_pair.2 ⟨hjoin, he.within.targetView huse.2⟩⟩
  | unjoinedAlias heq =>
    have hmissing := forall_mem_pair.2 ⟨hrender huse.2, hscope huse.2 heq⟩
    exact ⟨(h _ huse.1).qualified, hmissing⟩
  | noFieldOfAlias _ _ hview =>
    have hname := hview.name ▸ (h _ hview.mem).within.name
    exact ⟨(h _ huse.1).qualified, forall_mem_pair.2 ⟨hrender huse.2, hname⟩⟩
  | noOwnField =>
    have hv := h _ huse.1
    have hmissing := forall_mem_pair.2 ⟨hrender huse.2.2, hv.within.name⟩
    exact ⟨(hv.field huse.2.1).2, hmissing⟩
  | noFieldOfView heq | unknownScope heq =>
    have hv := h _ huse.1
    have hmissing := forall_mem_pair.2 ⟨hrender huse.2.2, hscope huse.2.2 heq⟩
    exact ⟨(hv.field huse.2.1).2, hmissing⟩

theorem inLine_of_mem_checkReferences [ComponentFinder]
    (h : ∀ e ∈ (build documents).1.entities, e.InLine)
    (he : e ∈ (build documents).1.checkReferences) : e.InLine := by
  rw [checkReferences_eq_filterMap] at he
  obtain ⟨use, huse, hcomplaint⟩ := List.mem_filterMap.1 he
  obtain ⟨why, hdangling, rfl⟩ :=
    (unambiguous_build documents).dangling_of_complaint? huse hcomplaint
  exact inLine_report h (standsIn_of_mem_uses huse) hdangling

theorem inLine_errors [ComponentFinder]
    (h : ∀ b ∈ documents.flatMap Document.blocks, b.KeepsLines) :
    ∀ e ∈ (build documents).2, e.InLine := by
  have hdefinitions : ∀ d ∈ definitions documents,
      OneLine d.key.name.text ∧ d.layer.Within OneLine :=
    fun d hd => Definition.within_of_mem_collect (fun b hb => (h b hb).names) hd
  rw [errors_build]
  intro e he
  simp only [List.mem_append, or_assoc] at he
  rcases he with hcollect | hmissing | hcycle | hdeep | hreference
  · exact Definition.inLine_collect h e hcollect
  · obtain ⟨d, hd, base, hbase, _, rfl⟩ := exists_of_mem_missingErrors hmissing
    have hbase := (hdefinitions d hd).2.mem_bases (List.mem_filter.1 hbase).1
    exact forall_mem_pair.2 ⟨(hdefinitions d hd).1, hbase⟩
  · exact inLine_of_mem_cycleErrors (fun d hd => (hdefinitions d hd).1) hcycle
  · obtain ⟨d, hd, _, rfl⟩ := exists_of_mem_tooDeepErrors hdeep
    exact List.forall_mem_singleton.2 (hdefinitions d hd).1
  · exact inLine_of_mem_checkReferences (inLine_entities h) hreference

end Project

end LookML
