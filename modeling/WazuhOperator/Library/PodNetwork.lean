import Mathlib.Logic.Basic

namespace PodNetwork

/-!
# Labels, selectors and network policies

Pods carry labels and live in namespaces; a selector picks out pods by their
labels.  A network policy applies to the pods of its namespace that its
selector picks out.  A pod to which no policy applies may be reached from
everywhere and may reach everything.  One to which policies apply is isolated
in both directions, except for what a rule of one of these policies admits.  A
connection has to be admitted at both of its ends.
-/

/-! ## Labels -/

abbrev Labels := List (String × String)

/-- The ways in which a requirement may look at the value of a label. -/
inductive Operator where
  | isIn
  | notIn
  | isThere
  | isAbsent

structure Requirement where
  key : String
  operator : Operator
  values : List String := []

def Requirement.accepts (requirement : Requirement) (labels : Labels) : Bool :=
  match requirement.operator, labels.lookup requirement.key with
  | .isIn, some value => value ∈ requirement.values
  | .isIn, none => false
  | .notIn, some value => value ∉ requirement.values
  | .notIn, none => true
  | .isThere, found => found.isSome
  | .isAbsent, found => found.isNone

structure LabelSelector where
  matchLabels : Labels := []
  matchExpressions : List Requirement := []

/-- All that the selector asks for is met; an empty selector asks for nothing. -/
def LabelSelector.selects (selector : LabelSelector) (labels : Labels) : Bool :=
  selector.matchLabels.all (fun wanted => labels.lookup wanted.1 = some wanted.2) &&
    selector.matchExpressions.all (·.accepts labels)

structure Pod where
  nspace : String
  labels : Labels

/-! ## Rules -/

inductive Protocol where
  | tcp
  | udp
  | sctp
  deriving DecidableEq

structure Port where
  protocol : Option Protocol := none
  number : Option Nat := none

def Port.admits (port : Port) (protocol : Protocol) (number : Nat) : Bool :=
  port.protocol.getD .tcp = protocol && (port.number.getD number = number)

/-- The pods a rule admits, by their labels and by those of their namespaces. -/
structure Peer where
  (podSelector namespaceSelector : Option LabelSelector := none)

section Rules

/- The labels of the namespaces. -/
variable (spaces : String -> Labels)

/-- Without a namespace selector the peer is looked for in the policy's own namespace. -/
def Peer.admits (home : String) (peer : Peer) (pod : Pod) : Bool :=
  match peer.namespaceSelector, peer.podSelector with
  | none, none => false
  | none, some pods => pod.nspace = home && pods.selects pod.labels
  | some namespaces, none => namespaces.selects (spaces pod.nspace)
  | some namespaces, some pods =>
    namespaces.selects (spaces pod.nspace) && pods.selects pod.labels

structure Rule where
  peers : List Peer := []
  ports : List Port := []

/-- A rule without peers admits all pods, and one without ports all ports. -/
def Rule.admits (home : String) (rule : Rule) (pod : Pod) (protocol : Protocol) (number : Nat) : Bool :=
  (rule.peers.isEmpty || rule.peers.any (·.admits spaces home pod)) &&
    (rule.ports.isEmpty || rule.ports.any (·.admits protocol number))

/-! ## Policies -/

structure Policy where
  (name nspace : String)
  labels : Labels := []
  podSelector : LabelSelector
  (ingress egress : List Rule)

def Policy.appliesTo (policy : Policy) (pod : Pod) : Bool :=
  pod.nspace = policy.nspace && policy.podSelector.selects pod.labels

structure Flow where
  (source destination : Pod)
  protocol : Protocol := .tcp
  port : Nat

variable (policies : List Policy) (flow : Flow)

/-- What the policies let through at one end: the pod there, the rules for the direction, and
the pod at the other end. -/
def AdmitsAt (pod : Pod) (rules : Policy -> List Rule) (other : Pod) (protocol : Protocol)
    (number : Nat) : Prop :=
  (∀ policy ∈ policies, policy.appliesTo pod = false) ∨
    ∃ policy ∈ policies, policy.appliesTo pod = true ∧
      ∃ rule ∈ rules policy, rule.admits spaces policy.nspace other protocol number = true

def AdmitsEgress : Prop :=
  AdmitsAt spaces policies flow.source Policy.egress flow.destination flow.protocol flow.port

def AdmitsIngress : Prop :=
  AdmitsAt spaces policies flow.destination Policy.ingress flow.source flow.protocol flow.port

def Admits : Prop := AdmitsEgress spaces policies flow ∧ AdmitsIngress spaces policies flow

end Rules

section Lemmas

variable {spaces : String -> Labels} {policies : List Policy} {pod other : Pod}
  {rules : Policy -> List Rule} {protocol : Protocol} {number : Nat}

theorem selects_matchLabels (wanted labels : Labels) :
    LabelSelector.selects { matchLabels := wanted } labels <->
      ∀ entry ∈ wanted, labels.lookup entry.1 = some entry.2 := by
  simp [LabelSelector.selects]

theorem Policy.appliesTo_eq_true_iff (policy : Policy) :
    policy.appliesTo pod <->
      pod.nspace = policy.nspace ∧ policy.podSelector.selects pod.labels = true := by
  simp [Policy.appliesTo]

theorem admitsAt_iff_of_only {policy : Policy} (member : policy ∈ policies)
    (applies : policy.appliesTo pod)
    (only : ∀ another ∈ policies, another.appliesTo pod -> another = policy) :
    AdmitsAt spaces policies pod rules other protocol number <->
      ∃ rule ∈ rules policy, rule.admits spaces policy.nspace other protocol number = true := by
  constructor
  · rintro (untouched | ⟨another, anotherMember, anotherApplies, admitting⟩)
    · exact absurd applies (by simp [untouched policy member])
    · rw [only another anotherMember anotherApplies] at admitting
      exact admitting
  · exact fun admitting => .inr ⟨policy, member, applies, admitting⟩

end Lemmas

end PodNetwork
