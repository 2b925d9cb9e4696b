import LookML.Proofs.Lint.Levels
/-!
# Registries over time

A registry is extended and narrowed by calls, of which any number may fail. Here the calls are
programs that change a list of rules in place, where the ids are texts of which nothing is known and
what was done before a failure stays done. From a registry such a program gets the answer that the
registry gives, and leaves a registry behind, the same one if it fails. So no two rules ever have the
same id, none has an empty one, and everything that is reported under an id is about one rule.
-/

namespace LookML

/-- A rule that is offered for registration: its id may be any text. -/
structure Offer where
  id : String
  severity : Severity
  description : String
  scope : Scope
  check : scope.Subject → Run

def Offer.toRule (o : Offer) (id : RuleId) : Rule :=
  ⟨id, o.severity, o.description, o.scope, o.check⟩

/-- The offer that a rule goes back to. -/
def Rule.offer (rule : Rule) : Offer :=
  ⟨rule.id.text, rule.severity, rule.description, rule.scope, rule.check⟩

namespace Registry

/-- What a registry is asked to do. -/
inductive Call where
  | register (offer : Offer)
  | select (ids : List String)

def offers (r : Registry) : List Offer :=
  r.rules.map Rule.offer

/-- The registry that a call leads to, or why it fails. -/
def answer (r : Registry) : Call → Except RegistryError Registry
  | .register o => r.register o.id o.toRule
  | .select ids => r.select ids

def after (r : Registry) (call : Call) : Registry :=
  (r.answer call).toOption.getD r

def afterAll (r : Registry) (calls : List Call) : Registry :=
  calls.foldl after r

end Registry

/-! ## Rules changed in place -/

/-- A program on a list of rules. What it has changed before it fails stays changed. -/
abbrev InPlace := EStateM RegistryError (List Offer)

namespace InPlace

/-- Fails unless some rule has the id. -/
def checkKnown (id : String) : InPlace Unit := do
  let rules ← get
  if id ∈ rules.map Offer.id then return ()
  else throw (.unknownRule id (rules.map Offer.id))

/-- Adds a rule at the end. -/
def register (o : Offer) : InPlace Unit :=
  match Identifier.ofText? o.id with
  | none => throw .emptyId
  | some id => do
    let rules ← get
    if o.id ∈ rules.map Offer.id then throw (.duplicateRule id)
    else set (rules ++ [o])

/-- Looks at one id after another, and then drops the rules that are not listed. -/
def select (ids : List String) : InPlace Unit := do
  ids.forM checkKnown
  modify (·.filter fun o => ids.contains o.id)

def perform : Registry.Call → InPlace Unit
  | .register o => register o
  | .select ids => select ids

def after (rules : List Offer) (call : Registry.Call) : List Offer :=
  match (perform call).run rules with
  | .ok _ rules | .error _ rules => rules

def afterAll (rules : List Offer) (calls : List Registry.Call) : List Offer :=
  calls.foldl after rules

variable {rules rules' : List Offer} {id : String} {ids : List String} {o : Offer}

theorem run_checkKnown (id : String) (rules : List Offer) :
    (checkKnown id).run rules = if id ∈ rules.map Offer.id then .ok () rules
      else .error (.unknownRule id (rules.map Offer.id)) rules := by
  have hget : (checkKnown id).run rules = (if id ∈ rules.map Offer.id then return ()
      else throw (.unknownRule id (rules.map Offer.id)) : InPlace Unit).run rules := rfl
  rw [hget]
  split <;> rfl

theorem run_forM_checkKnown (ids : List String) (rules : List Offer) :
    (ids.forM checkKnown).run rules =
      match ids.find? (· ∉ rules.map Offer.id) with
      | some id => .error (.unknownRule id (rules.map Offer.id)) rules
      | none => .ok () rules := by
  induction ids with
  | nil => rfl
  | cons id ids ih =>
    rw [List.forM_eq_forM, List.forM_cons, EStateM.run_bind, run_checkKnown]
    by_cases hid : id ∈ rules.map Offer.id
    · rw [if_pos hid, List.find?_cons_of_neg (by simpa using hid)]
      exact ih
    · rw [if_neg hid, List.find?_cons_of_pos (by simpa using hid)]

theorem run_select (ids : List String) (rules : List Offer) :
    (select ids).run rules =
      match ids.find? (· ∉ rules.map Offer.id) with
      | some id => .error (.unknownRule id (rules.map Offer.id)) rules
      | none => .ok () (rules.filter fun o => ids.contains o.id) := by
  rw [select, EStateM.run_bind, run_forM_checkKnown]
  cases ids.find? (· ∉ rules.map Offer.id) <;> rfl

theorem run_register (o : Offer) (rules : List Offer) :
    (register o).run rules =
      match Identifier.ofText? o.id with
      | none => .error .emptyId rules
      | some id => if o.id ∈ rules.map Offer.id then .error (.duplicateRule id) rules
        else .ok () (rules ++ [o]) := by
  unfold register
  cases Identifier.ofText? o.id with
  | none => rfl
  | some id =>
    have hget : ((do
        let rules ← get
        if o.id ∈ rules.map Offer.id then throw (.duplicateRule id)
        else set (rules ++ [o])) : InPlace Unit).run rules =
      (if o.id ∈ rules.map Offer.id then throw (.duplicateRule id)
        else set (rules ++ [o]) : InPlace Unit).run rules := rfl
    simp only [hget]
    split <;> rfl

theorem eq_of_run_eq_error {call : Registry.Call} {e : RegistryError}
    (h : (perform call).run rules = .error e rules') : rules' = rules := by
  cases call with
  | register o =>
    rw [perform, run_register] at h
    split at h
    · cases h
      rfl
    · split at h <;> cases h
      rfl
  | select ids =>
    rw [perform, run_select] at h
    split at h <;> cases h
    rfl

end InPlace

/-! ## Registries -/

namespace Registry

variable {r : Registry} {id : String} {rule : Rule} {o : Offer} {rules : List Offer}

theorem map_id_offers (r : Registry) : r.offers.map Offer.id = r.ids := by
  rw [offers, List.map_map]
  rfl

theorem nodup_ids (r : Registry) : r.ids.Nodup := by
  have hids : r.ids = (r.rules.map Rule.id).map Identifier.text := by
    rw [List.map_map]
    rfl
  rw [hids]
  exact r.nodup.map Identifier.text_injective

theorem ne_of_mem_ids (h : id ∈ r.ids) : id ≠ "" := by
  obtain ⟨rule, _, rfl⟩ := List.mem_map.1 h
  exact rule.id.text_ne

theorem rule?_eq_some_iff : r.rule? id = some rule ↔ rule ∈ r.rules ∧ rule.id.text = id :=
  Keyed.find?_eq_some_iff r.nodup_ids

theorem isNone_rule? (r : Registry) (id : String) : (r.rule? id).isNone = decide (id ∉ r.ids) := by
  rw [Bool.eq_iff_iff, decide_eq_true_iff, Option.isNone_iff_eq_none, rule?, List.find?_eq_none]
  simp [ids]

theorem offers_filter (r : Registry) (chosen : String → Bool) :
    (r.filter fun rule => chosen rule.id.text).offers = r.offers.filter (chosen ·.id) :=
  (List.filter_map (f := Rule.offer) (p := fun o => chosen o.id)).symm

/-- In place, a call gets the answer of the registry and leaves the registry behind that it leads
to. -/
theorem run_perform (r : Registry) (call : Call) :
    (InPlace.perform call).run r.offers =
      match r.answer call with
      | .ok next => .ok () next.offers
      | .error e => .error e r.offers := by
  cases call with
  | register o =>
    rw [InPlace.perform, InPlace.run_register, map_id_offers, answer, Registry.register]
    cases hid : Identifier.ofText? o.id with
    | none => rfl
    | some id =>
      have htext : id.text = o.id := Identifier.ofText?_eq_some_iff.1 hid
      have hmem : (o.toRule id).id ∈ r.rules.map Rule.id ↔ o.id ∈ r.ids := by
        have hids : r.ids = (r.rules.map Rule.id).map Identifier.text := by
          rw [List.map_map]
          rfl
        rw [hids, ← htext, List.mem_map_of_injective Identifier.text_injective]
        rfl
      by_cases hold : o.id ∈ r.ids
      · simp only [if_pos hold, dif_pos (hmem.2 hold)]
        rfl
      · simp only [if_neg hold, dif_neg (fun h => hold (hmem.1 h))]
        rw [offers, offers, List.map_append]
        simp [Rule.offer, Offer.toRule, htext]
  | select ids =>
    rw [InPlace.perform, InPlace.run_select, map_id_offers, answer, select, checkKnown,
      funext r.isNone_rule?]
    cases ids.find? (· ∉ r.ids) with
    | none => exact congrArg (EStateM.Result.ok ()) (r.offers_filter ids.contains).symm
    | some id => rfl

theorem offers_afterAll (r : Registry) (calls : List Call) :
    (r.afterAll calls).offers = InPlace.afterAll r.offers calls := by
  induction calls generalizing r with
  | nil => rfl
  | cons call calls ih =>
    have hstep : (r.after call).offers = InPlace.after r.offers call := by
      rw [after, InPlace.after, run_perform]
      cases r.answer call <;> rfl
    calc (r.afterAll (call :: calls)).offers
        = InPlace.afterAll (r.after call).offers calls := ih (r.after call)
      _ = InPlace.afterAll r.offers (call :: calls) := by rw [hstep]; rfl

theorem run_register_eq_ok_iff :
    (InPlace.register o).run r.offers = .ok () rules ↔
      o.id ≠ "" ∧ o.id ∉ r.ids ∧ rules = r.offers ++ [o] := by
  rw [InPlace.run_register, map_id_offers, Identifier.ofText?]
  by_cases hempty : o.id = ""
  · simp [hempty]
  · by_cases hold : o.id ∈ r.ids
    · simp [hempty, hold]
    · simp [hempty, hold, eq_comm]

theorem run_select_eq_ok_iff {ids : List String} :
    (InPlace.select ids).run r.offers = .ok () rules ↔
      (∀ id ∈ ids, id ∈ r.ids) ∧ rules = r.offers.filter (·.id ∈ ids) := by
  rw [InPlace.run_select, map_id_offers]
  cases hunknown : ids.find? (· ∉ r.ids) with
  | none =>
    have hknown : ∀ id ∈ ids, id ∈ r.ids := by simpa using hunknown
    simp only [EStateM.Result.ok.injEq, true_and, List.contains_eq_mem]
    exact ⟨fun h => ⟨hknown, h.symm⟩, fun h => h.2.symm⟩
  | some id =>
    have hid : id ∈ ids := List.mem_of_find?_eq_some hunknown
    have hnew : id ∉ r.ids := by simpa using List.find?_some hunknown
    simp only [reduceCtorEq, false_iff]
    exact fun h => hnew (h.1 id hid)

/-! ## Main statement -/

/-- The rules of a registry are told apart by their ids, which no call puts at risk. -/
structure KeepsApart (r : Registry) : Prop where
  ids_ne : ∀ id ∈ r.ids, id ≠ ""
  ids_nodup : r.ids.Nodup
  rule?_eq_some_iff : ∀ id rule, r.rule? id = some rule ↔ rule ∈ r.rules ∧ rule.id.text = id
  /-- in place, a call gets the same answer and leaves the same rules -/
  inPlace : ∀ call, (InPlace.perform call).run r.offers =
    match r.answer call with
    | .ok next => .ok () next.offers
    | .error e => .error e r.offers
  /-- a call that fails has changed nothing -/
  failing : ∀ call e rules,
    (InPlace.perform call).run r.offers = .error e rules → rules = r.offers
  /-- a rule is added at the end, if its id is not empty and not taken -/
  register : ∀ o rules, (InPlace.register o).run r.offers = .ok () rules ↔
    o.id ≠ "" ∧ o.id ∉ r.ids ∧ rules = r.offers ++ [o]
  /-- the listed rules stay, in their order, if there are such rules -/
  select : ∀ ids rules, (InPlace.select ids).run r.offers = .ok () rules ↔
    (∀ id ∈ ids, id ∈ r.ids) ∧ rules = r.offers.filter (·.id ∈ ids)
  /-- in whatever order and how often they are listed -/
  select_congr : ∀ ids ids', (∀ id, id ∈ ids ↔ id ∈ ids') → ∀ rules,
    (InPlace.select ids).run r.offers = .ok () rules ↔
      (InPlace.select ids').run r.offers = .ok () rules
  /-- the text that stands for the rule of a task is an id, and it leads to that rule alone -/
  reported : ∀ (p : Project), ∀ t ∈ r.tasks p, ∀ outcome : Outcome,
    ((∃ limit, outcome = t.outcome limit) ∨ ∃ cause, outcome = .fault cause) →
    ∀ v ∈ t.violations outcome,
      Identifier.ofText? t.rule.offer.id = some v.rule ∧ r.rule? v.rule.text = some t.rule

theorem keepsApart (r : Registry) : r.KeepsApart where
  ids_ne _ := ne_of_mem_ids
  ids_nodup := r.nodup_ids
  rule?_eq_some_iff _ _ := rule?_eq_some_iff
  inPlace := r.run_perform
  failing _ _ _ := InPlace.eq_of_run_eq_error
  register _ _ := run_register_eq_ok_iff
  select _ _ := run_select_eq_ok_iff
  select_congr ids ids' hsame rules := by
    simp only [run_select_eq_ok_iff, hsame]
  reported p t ht outcome hout v hv := by
    have hid : v.rule = t.rule.id := by
      rcases hout with ⟨limit, rfl⟩ | ⟨cause, rfl⟩
      · exact ((r.reportsOwn_outcome limit).violations ht hv).1
      · obtain rfl := List.mem_singleton.1 hv
        rfl
    rw [hid, rule?_eq_some_iff, Identifier.ofText?_eq_some_iff]
    exact ⟨rfl, rule_mem_of_mem_tasks ht, rfl⟩

section Standard

variable [SqlParser] [PatternCompiler]

theorem ids_withOptions {options : RuleOptions} (h : withOptions options = .ok r) :
    r.ids = Rules.builtInIds := by
  unfold withOptions at h
  split at h <;> cases h
  exact Rules.map_id_builtIn _ _

theorem ids_configured {options : RuleOptions} {levels : Levels}
    (h : configured options levels = .ok r) : r.ids = Rules.builtInIds.filter levels.allows := by
  obtain ⟨all, hall, rfl⟩ := exists_of_configured h
  rw [← ids_withOptions hall]
  exact (List.filter_map (f := fun rule : Rule => rule.id.text) (p := levels.allows)).symm

/-- Whatever registry there is at first, one without rules or one with the built-in rules that a
configuration leaves on, and whatever calls are made, of which some may fail: no call puts at risk
that its rules are told apart by their ids. -/
theorem keepsApart_afterAll :
    (empty.ids = [] ∧ standard.ids = Rules.builtInIds ∧
      (∀ options r, withOptions options = .ok r → r.ids = Rules.builtInIds) ∧
      ∀ (c : Config) r, configured c.options c.levels = .ok r →
        r.ids = Rules.builtInIds.filter c.levels.allows) ∧
    ∀ (start : Registry) (calls : List Call),
      (start.afterAll calls).offers = InPlace.afterAll start.offers calls ∧
        (start.afterAll calls).KeepsApart :=
  ⟨⟨rfl, ids_standard, fun _ _ => ids_withOptions, fun _ _ => ids_configured⟩,
    fun start calls => ⟨start.offers_afterAll calls, (start.afterAll calls).keepsApart⟩⟩

end Standard

def Call.registerIdle (id : String) : Call :=
  .register ⟨id, .info, "", .project, fun _ => .found []⟩

/-- A rule is turned off. Of the calls, the first and the last one succeed. -/
theorem keepsApart_afterAll_withoutOrphans :
    let start := standard.filter fun rule => Config.withoutOrphans.levels.allows rule.id.text
    let calls : List Call := [.select ["primary_key", "description", "primary_key"],
      .registerIdle "description", .select ["primary_key", "lexicon"], .registerIdle "",
      .registerIdle "no_orphans"]
    start.ids = Rules.builtInIds.filter Config.withoutOrphans.levels.allows ∧
      (start.afterAll calls).offers.map Offer.id = ["description", "primary_key", "no_orphans"] ∧
      (start.afterAll calls).KeepsApart := by
  intro start calls
  obtain ⟨⟨_, _, _, hconfigured⟩, hcalls⟩ := keepsApart_afterAll
  obtain ⟨hoffers, hapart⟩ := hcalls start calls
  refine ⟨hconfigured Config.withoutOrphans start configured_withoutOrphans, ?_, hapart⟩
  rw [hoffers]
  decide +kernel

end Registry

end LookML
