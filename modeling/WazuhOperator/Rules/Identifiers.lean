import WazuhOperator.Library.Runs
import WazuhOperator.Rules.Validation

namespace WazuhOperator
namespace Rules

open List Runs

/-!
# Identifiers of accepted rules

Rules are created, edited and deleted by their owners, and validated by the
reconciler, in any order.  A rule is accepted if its last validation since it
was created or edited passed.  The identifiers of a rule are those of the rule
elements which an XML reader finds in its text; the reader is a parameter, and
nothing is assumed of it.

The check for duplicates does not see what the reader sees.  It lists the
namespace of the rule only, it is left out when the listing fails, it goes by
a regular expression, and it never looks for repetitions in the text itself.
-/

/-! ## Runs -/

structure Registry where
  store : Store .rule
  accepted : String × String -> Bool

inductive Move where
  | create (nspace name : String) (spec : Spec)
  | update (key : String × String) (spec : Spec)
  | delete (key : String × String)
  /-- A pass of the reconciler, with the answer to the listing of the validator, the answers to
  the rest of the pass, and what the ConfigMap of the rule holds. -/
  | reconcile (key : String × String) (listing : Except String Unit) (answers : Answers)
      (configMap : Option (String × String))

namespace Registry

variable (parser : XMLParser)

protected def empty : Registry where
  store := .empty
  accepted := fun _ => false

attribute [local instance] Store.lawfulKey

def step (registry : Registry) : Move -> Registry
  | .create nspace name spec =>
    if (nspace, name) ∈ registry.store.items.map Resource.key then registry
    else
      { store := registry.store.create nspace name spec
        accepted := Function.update registry.accepted (nspace, name) false }
  | .update key spec =>
    { store := registry.store.edit key spec
      accepted := Function.update registry.accepted key false }
  | .delete key =>
    { store := registry.store.delete key
      accepted := Function.update registry.accepted key false }
  | .reconcile key listing answers configMap =>
    match registry.store.items.find? (fun rule => rule.key = key) with
    | none => registry
    | some rule =>
      let errors := validate parser listing registry.store.items rule
      { store := registry.store.reconciled key errors answers configMap
        accepted := Function.update registry.accepted key errors.isEmpty }

def acceptedRules (registry : Registry) : List Resource :=
  registry.store.items.filter fun rule => registry.accepted rule.key

/-- The identifiers of the accepted rules for a cluster are distinct, as `read` finds them: no two
rules share one and no rule has one twice. -/
def DistinctIDs (read : String -> List Nat) (registry : Registry) : Prop :=
  ∀ rule ∈ registry.acceptedRules, (read rule.spec.content).Nodup ∧
    ∀ other ∈ registry.acceptedRules, rule.key ≠ other.key -> rule.cluster = other.cluster ->
      ∀ id ∈ read rule.spec.content, id ∉ read other.spec.content
  deriving Decidable

end Registry

open Registry

/-! ## What a move does to the accepted rules -/

theorem mem_revised {items : List Resource} {key : String × String} {change : Resource -> Resource}
    {revised : Resource}
    (listed : revised ∈ items.map fun resource => if resource.key = key then change resource else resource) :
    (revised ∈ items ∧ revised.key ≠ key) ∨
      ∃ resource ∈ items, resource.key = key ∧ revised = change resource := by
  rcases mem_map.mp listed with ⟨resource, member, same⟩
  by_cases here : resource.key = key
  · rw [if_pos here] at same
    exact .inr ⟨resource, member, here, same.symm⟩
  · rw [if_neg here] at same
    rw [← same]
    exact .inl ⟨member, here⟩

namespace Registry

variable {parser : XMLParser}

def Passes (parser : XMLParser) (registry : Registry) (move : Move) (rule : Resource) : Prop :=
  ∃ key listing answers configMap, move = .reconcile key listing answers configMap ∧
    ∃ old ∈ registry.store.items, old.key = key ∧ validate parser listing registry.store.items old = [] ∧
      rule.nspace = old.nspace ∧ rule.name = old.name ∧ rule.spec = old.spec

theorem ne_of_update_false {accepted : String × String -> Bool} {key other : String × String}
    (yes : Function.update accepted key false other) : other ≠ key ∧ accepted other = true := by
  by_cases same : other = key
  · rw [same, Function.update_self] at yes
    cases yes
  · rw [Function.update_of_ne same] at yes
    exact ⟨same, yes⟩

variable {registry : Registry} {rule other : Resource}

theorem mem_acceptedRules_step (accepted : rule ∈ (registry.step parser move).acceptedRules) :
    rule ∈ registry.acceptedRules ∨ Passes parser registry move rule := by
  have accepts := mem_filter.mp accepted
  cases move with
  | create nspace name =>
    by_cases used : (nspace, name) ∈ registry.store.items.map Resource.key
    · rw [step, if_pos used] at accepts
      exact .inl (mem_filter.mpr accepts)
    · rw [step, if_neg used] at accepts
      rcases ne_of_update_false accepts.2 with ⟨other, before⟩
      have listed := accepts.1
      rw [Store.create, dif_pos used] at listed
      rcases mem_cons.mp listed with new | old
      · exact absurd (congrArg Resource.key new) other
      · exact .inl (mem_filter.mpr ⟨old, before⟩)
  | update =>
    rcases ne_of_update_false accepts.2 with ⟨other, before⟩
    rcases mem_revised accepts.1 with ⟨listed, _⟩ | ⟨old, _, here, same⟩
    · exact .inl (mem_filter.mpr ⟨listed, before⟩)
    · rw [same] at other
      exact absurd here other
  | delete =>
    exact .inl (mem_filter.mpr
      ⟨mem_of_mem_filter accepts.1, (ne_of_update_false accepts.2).2⟩)
  | reconcile key listing answers configMap =>
    cases found : registry.store.items.find? (fun rule => rule.key = key) with
    | none =>
      rw [step, found] at accepts
      exact .inl (mem_filter.mpr accepts)
    | some old =>
      have listed := mem_of_find?_eq_some found
      have here : old.key = key := by simpa using find?_some found
      rw [step, found] at accepts
      have acceptance : Function.update registry.accepted key
          (validate parser listing registry.store.items old).isEmpty rule.key := accepts.2
      rcases mem_revised accepts.1 with ⟨member, other⟩ | ⟨original, member, there, same⟩
      · rw [Function.update_of_ne other] at acceptance
        exact .inl (mem_filter.mpr ⟨member, acceptance⟩)
      · have identical : original = old :=
          registry.store.eq_of_key member listed (there.trans here.symm)
        rcases passed_written .rule (validate parser listing registry.store.items old) answers
          configMap old with ⟨status, _, written⟩
        rw [identical, written] at same
        rw [same, show Resource.key { old with status := status } = key from here,
          Function.update_self, List.isEmpty_iff] at acceptance
        refine .inr ⟨key, listing, answers, configMap, rfl, old, listed, here, acceptance, ?_⟩
        rw [same]
        exact ⟨rfl, rfl, rfl⟩

theorem pairs_step {related : Resource -> Resource -> Prop}
    (symmetric : forall rule other, related rule other -> related other rule)
    (before : ∀ rule ∈ registry.acceptedRules, ∀ other ∈ registry.acceptedRules,
      rule.key ≠ other.key -> related rule other)
    (new : forall rule, Passes parser registry move rule -> ∀ other ∈ registry.acceptedRules,
      rule.key ≠ other.key -> related rule other) :
    ∀ rule ∈ (registry.step parser move).acceptedRules,
      ∀ other ∈ (registry.step parser move).acceptedRules,
        rule.key ≠ other.key -> related rule other := by
  intro rule accepted other otherAccepted apart
  rcases mem_acceptedRules_step accepted with old | passes
  · rcases mem_acceptedRules_step otherAccepted with otherOld | otherPasses
    · exact before rule old other otherOld apart
    · exact symmetric _ _ (new other otherPasses rule old apart.symm)
  · rcases mem_acceptedRules_step otherAccepted with otherOld | otherPasses
    · exact new rule passes other otherOld apart
    · -- One move validates one rule.
      rcases passes with ⟨key, _, _, _, rfl, old, _, here, _, namespaces, names, _⟩
      rcases otherPasses with ⟨otherKey, _, _, _, same, otherOld, _, there, _, otherNamespaces,
        otherNames, _⟩
      cases same
      refine absurd ?_ apart
      calc
        rule.key = old.key := Prod.ext namespaces names
        _ = key := here
        _ = otherOld.key := there.symm
        _ = other.key := (Prod.ext otherNamespaces otherNames : other.key = otherOld.key).symm

/-! ## Rules of one namespace -/

def Answered : Move -> Prop
  | .reconcile _ listing _ _ => listing = .ok ()
  | _ => True

instance : DecidablePred Answered
  | .create _ _ _ | .update _ _ | .delete _ => isTrue trivial
  | .reconcile _ listing _ _ =>
    match listing with
    | .ok () => isTrue rfl
    | .error _ => isFalse nofun

/-- The two rules lie in one namespace and name the same cluster only if they have no identifier
in common, as the regular expression finds them. -/
def ApartInNamespace (rule other : Resource) : Prop :=
  rule.nspace = other.nspace -> rule.spec.clusterRef.name = other.spec.clusterRef.name ->
    ∀ id ∈ extractRuleIDs rule.spec.content, id ∉ extractRuleIDs other.spec.content

/-- No two accepted rules of one namespace for the same cluster have an identifier in common. -/
def ApartInNamespaces (registry : Registry) : Prop :=
  ∀ rule ∈ registry.acceptedRules, ∀ other ∈ registry.acceptedRules,
    rule.key ≠ other.key -> ApartInNamespace rule other

theorem ApartInNamespace.symm (apart : ApartInNamespace rule other) :
    ApartInNamespace other rule := by
  intro near naming id inOther inRule
  exact apart near.symm naming.symm id inRule inOther

theorem apart_of_passes (answered : Answered move) (passes : Passes parser registry move rule)
    (accepted : other ∈ registry.acceptedRules) (different : rule.key ≠ other.key) :
    ApartInNamespace rule other := by
  rcases passes with
    ⟨key, listing, answers, configMap, rfl, old, listed, here, valid, sameNamespace, sameName, sameSpec⟩
  intro near naming
  have otherName : other.name ≠ old.name := by
    intro same
    exact different (Prod.ext near (sameName.trans same.symm))
  rw [show listing = .ok () from answered] at valid
  rw [sameSpec] at naming ⊢
  exact validate_apart valid (mem_of_mem_filter accepted) (near.symm.trans sameNamespace) otherName
    naming.symm

theorem apartInNamespaces_step (registry : Registry) (move : Move)
    (apart : registry.ApartInNamespaces) (answered : Answered move) :
    (registry.step parser move).ApartInNamespaces :=
  pairs_step (fun _ _ => ApartInNamespace.symm) apart
    (fun _ passes _ accepted different => apart_of_passes answered passes accepted different)

end Registry

/-- In every run of creations, updates, deletions and validations whose listings are answered, no
two accepted rules of one namespace for the same cluster ever have an identifier in common which
the regular expression finds. -/
theorem accepted_ids_apart (parser : XMLParser) (moves : List Move)
    (answered : Along (step parser) (fun _ => Answered) .empty moves) :
    Throughout (step parser) ApartInNamespaces .empty moves := by
  refine throughout_of_invariant apartInNamespaces_step (fun _ apart => apart) moves _ ?_
    answered
  exact fun _ accepted => absurd accepted not_mem_nil

namespace Sample

def lenient : XMLParser where
  group := fun _ => .ok ()
  root := fun _ => .ok ()

def ruleSpec (content : String) : Spec where
  clusterRef := { name := "prod", nspace := "wazuh" }
  title := "local"
  content := content

def added (nspace name content : String) (listing : Except String Unit) : List Move :=
  [.create nspace name (ruleSpec content),
    .reconcile (nspace, name) listing { cluster := .found {} } none]

def sshRule : String := "<group name='local'><rule id='100100' level='5'/></group>"

def webRule : String := "<group name='local'><rule level='7' id='100200'/></group>"

def twiceRule : String := "<rule id='100100' level='5'/><rule id='100100' level='7'/>"

/-- An attribute before the identifier has a closing bracket in its value, as XML allows. -/
def bracketRule : String := "<rule noalert='a>b' id='100100' level='5'/>"

def xmlIDs (content : String) : List Nat :=
  if content = bracketRule then [100100] else extractRuleIDs content

def registry (moves : List Move) : Registry := run (step lenient) .empty moves

end Sample

open Sample

theorem accepted_ids_apart_two_rules :
    let moves := added "wazuh" "ssh" sshRule (.ok ()) ++
      added "wazuh" "web" webRule (.ok ())
    (registry moves).acceptedRules.length = 2 ∧
      Throughout (step lenient) ApartInNamespaces .empty moves :=
  ⟨by decide +kernel, accepted_ids_apart _ _ (by decide)⟩

/-- Accepted rules have one identifier twice: in one text; in two namespaces; where the listing
fails; and where the regular expression does not find it. -/
theorem accepted_ids_repeated :
    ¬ (registry (added "wazuh" "ssh" twiceRule (.ok ()))).DistinctIDs xmlIDs ∧
    ¬ (registry (added "wazuh" "ssh" sshRule (.ok ()) ++
        added "team" "ssh" sshRule (.ok ()))).DistinctIDs xmlIDs ∧
    ¬ (registry (added "wazuh" "ssh" sshRule (.ok ()) ++
        added "wazuh" "web" sshRule (.error "timeout"))).DistinctIDs xmlIDs ∧
    ¬ (registry (added "wazuh" "ssh" bracketRule (.ok ()) ++
        added "wazuh" "web" bracketRule (.ok ()))).DistinctIDs xmlIDs := by
  decide +kernel

/-! ## The range of identifiers -/

open Patterns

/-- The identifier of a rule element is there and is a number in the custom range. -/
def isCustom : Option String -> Bool
  | none => false
  | some digits => digits.toList.all isDigit &&
      (atoi digits).any fun id => 100000 ≤ id && id ≤ 999999

/-- A rule element as it is usually written: up to its end there is no `>`, its identifier is a
number in quotes, and behind that the tag has no further `id`. -/
structure RuleTag where
  (before blank blankAfter digits after : List Char)
  (opening closing : Char)
  separated : before ≠ []
  unclosed : '>' ∉ before ++ after
  blanks : ∀ char ∈ blank ++ blankAfter, isPatternSpace char = true
  quotes : isQuote opening = true ∧ isQuote closing = true
  occupied : digits ≠ []
  number : ∀ char ∈ digits, isDigit char = true
  last : ¬ ['i', 'd'] <:+: after

namespace RuleTag

variable (tag : RuleTag)

def id : String := String.ofList tag.digits

/-- The attribute with the identifier, behind its first letter. -/
def numbered : List Char :=
  'd' :: (tag.blank ++ '=' :: (tag.blankAfter ++ tag.opening :: (tag.digits ++ [tag.closing])))

/-- The tag up to its identifier, behind its first letter. -/
def opened : List Char := "rule".toList ++ (tag.before ++ 'i' :: tag.numbered)

end RuleTag

/-- Rule elements, each with the text up to the next one. -/
def ruleLetters : List (RuleTag × List Char) -> List Char
  | [] => []
  | (tag, gap) :: parts => '<' :: (tag.opened ++ ((tag.after ++ '>' :: gap) ++ ruleLetters parts))

/-- A text in which every `<rule` belongs to such an element. -/
structure RuleText where
  lead : List Char
  parts : List (RuleTag × List Char)
  leads : ¬ "<rule".toList <:+: lead
  between : ∀ part ∈ parts, ¬ "<rule".toList <:+: part.1.after ++ '>' :: part.2

def RuleText.text (text : RuleText) : String := String.ofList (text.lead ++ ruleLetters text.parts)

section Written

theorem not_infix_append {letter : Char} {rest front back : List Char} (apart : letter ∉ front)
    (absent : ¬ letter :: rest <:+: back) : ¬ letter :: rest <:+: front ++ back := by
  induction front with
  | nil => exact absent
  | cons char front ih =>
    rw [mem_cons, not_or] at apart
    rw [cons_append, infix_cons_iff, cons_prefix_cons, not_or, not_and]
    exact ⟨fun same => absurd same apart.1, ih apart.2⟩

/-- The pattern behind the characters up to the identifier. -/
def attributeItems : List Item :=
  literal "id" ++ (.many isPatternSpace :: (literal "=" ++
    [.many isPatternSpace, .one isQuote, .captured isDigit, .one isQuote]))

theorem ruleIDRegex_eq :
    ruleIDRegex = literal "<rule" ++ (.one (· ≠ '>') :: .many (· ≠ '>') :: attributeItems) := by
  simp [ruleIDRegex, attributeItems, some1]

variable (tag : RuleTag)

theorem matchAt_attribute (text : List Char) :
    matchAt attributeItems ('i' :: (tag.numbered ++ text)) = some (tag.digits, text) := by
  have blanks := forall_mem_append.mp tag.blanks
  have quote : forall char, isQuote char -> isPatternSpace char = false ∧ isDigit char = false := by
    intro char quoted
    rcases Bool.or_eq_true_iff.mp quoted with same | same <;> cases of_decide_eq_true same <;> decide
  have shape : 'i' :: (tag.numbered ++ text) = "id".toList ++ (tag.blank ++ '=' ::
      (tag.blankAfter ++ tag.opening :: (tag.digits ++ tag.closing :: text))) := by
    simp [RuleTag.numbered]
  rw [shape, attributeItems, matchAt_literal]
  refine matchAt_many blanks.1 (by decide) ((matchAt_literal "=" _ _).trans ?_)
  refine matchAt_many blanks.2 (quote _ tag.quotes.1).1 ?_
  rw [matchAt, if_pos tag.quotes.1]
  refine matchAt_captured tag.occupied tag.number (quote _ tag.quotes.2).2 ?_
  simp [matchAt, tag.quotes.2]

theorem RuleTag.numbered_last : ¬ ['i', 'd'] <:+: tag.numbered ++ tag.after := by
  refine not_infix_append (fun inside => ?_) tag.last
  have blank : 'i' ∉ tag.blank ++ tag.blankAfter := fun wrong => absurd (tag.blanks _ wrong) (by decide)
  have number : 'i' ∉ tag.digits := fun wrong => absurd (tag.number _ wrong) (by decide)
  have opening : 'i' ≠ tag.opening := fun wrong => absurd (wrong ▸ tag.quotes.1) (by decide)
  have closing : 'i' ≠ tag.closing := fun wrong => absurd (wrong ▸ tag.quotes.2) (by decide)
  simp_all [RuleTag.numbered]

theorem matchAt_tag (rest : List Char) :
    matchAt ruleIDRegex ('<' :: (tag.opened ++ (tag.after ++ '>' :: rest))) =
      some (tag.digits, tag.after ++ '>' :: rest) := by
  have unclosed := mt mem_append.mpr tag.unclosed
  rw [not_or] at unclosed
  have shape : '<' :: (tag.opened ++ (tag.after ++ '>' :: rest)) =
      "<rule".toList ++ (tag.before ++ 'i' :: (tag.numbered ++ (tag.after ++ '>' :: rest))) := by
    simp [RuleTag.opened]
  -- No later place in the tag begins with `id`, so the greedy reading ends here.
  have ends : greedy (· ≠ '>') (matchAt attributeItems) ('i' :: (tag.numbered ++ (tag.after ++ '>' :: rest))) =
      some ([], tag.digits, tag.after ++ '>' :: rest) := by
    have later : greedy (· ≠ '>') (matchAt attributeItems) ((tag.numbered ++ tag.after) ++ '>' :: rest) = none := by
      refine greedy_eq_none (by decide) fun left inside => matchAt_literal_none ?_
      by_cases occupied : left = []
      · simp [occupied]
      · simpa using not_prefix_gap tag.numbered_last (by simp) inside occupied
    rw [append_assoc] at later
    rw [greedy, if_pos (by decide), later, matchAt_attribute]
    rfl
  rw [shape, ruleIDRegex_eq, matchAt_literal]
  cases before : tag.before with
  | nil => exact absurd before tag.separated
  | cons char more =>
    rw [before] at unclosed
    have unended : ∀ other ∈ more, decide (other ≠ '>') = true := fun other inside =>
      decide_eq_true fun wrong => unclosed.1 (wrong ▸ mem_cons_of_mem _ inside)
    have first : char ≠ '>' := fun wrong => unclosed.1 (wrong ▸ mem_cons_self)
    rw [cons_append, matchAt, if_pos (decide_eq_true first), matchAt, greedy_append unended ends]
    rfl

theorem rule_gap {gap : List Char} (absent : ¬ "<rule".toList <:+: gap) (parts : List (RuleTag × List Char)) :
    findFrom ruleIDRegex 0 (gap ++ ruleLetters parts) = findFrom ruleIDRegex 0 (ruleLetters parts) := by
  refine findFrom_gap fun left inside occupied => ?_
  refine matchAt_literal_none (not_prefix_gap absent (fun char begins => ?_) inside occupied)
  cases parts with
  | nil => cases begins
  | cons =>
    cases begins
    decide

theorem findFrom_ruleLetters (parts : List (RuleTag × List Char))
    (between : ∀ part ∈ parts, ¬ "<rule".toList <:+: part.1.after ++ '>' :: part.2) :
    findFrom ruleIDRegex 0 (ruleLetters parts) = parts.map (·.1.digits) := by
  induction parts with
  | nil => rfl
  | cons part parts ih =>
    rcases part with ⟨tag, gap⟩
    rw [forall_mem_cons] at between
    have found : matchAt ruleIDRegex ('<' :: (tag.opened ++ ((tag.after ++ '>' :: gap) ++ ruleLetters parts))) =
        some (tag.digits, (tag.after ++ '>' :: gap) ++ ruleLetters parts) := by
      simpa using matchAt_tag tag (gap ++ ruleLetters parts)
    rw [ruleLetters, findFrom_found found, rule_gap between.1, ih between.2]
    rfl

theorem findAll_text (text : RuleText) : findAll ruleIDRegex text.text = text.parts.map (·.1.id) := by
  rw [findAll, RuleText.text, String.toList_ofList, rule_gap text.leads, findFrom_ruleLetters _ text.between,
    map_map]
  rfl

end Written

/-- `webRule` as a text with one element, whose identifier is its last attribute. -/
def Sample.webText : RuleText where
  lead := "<group name='local'>".toList
  parts := [({
    before := " level='7' ".toList
    blank := []
    blankAfter := []
    digits := "100200".toList
    after := ['/']
    opening := '\''
    closing := '\''
    separated := by decide +kernel
    unclosed := by decide +kernel
    blanks := by simp
    quotes := by decide
    occupied := by decide +kernel
    number := all_eq_true.mp (by decide +kernel)
    last := by decide }, "</group>".toList)]
  leads := by decide +kernel
  between := by decide +kernel

/-- The identifier of a built-in rule, in front of an attribute whose name ends in `id`. -/
def Sample.builtinRule : String :=
  "<group name='local'><rule id='5710' level='0' noid='100001'/></group>"

end Rules
end WazuhOperator
