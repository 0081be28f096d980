import WazuhOperator.Certificates.Names

namespace WazuhOperator
namespace Certificates

/-!
# Validity periods and renewal thresholds

`ParseCertDuration` and the options which the reconciler makes of the
durations in the `certConfig` of a cluster.  Durations are counted in
nanoseconds.  Their arithmetic is that of 64-bit integers: the product of a
number and its unit wraps around.

The indexer's two durations are used for the certificates of the managers as
well.
-/

/-- The value of an integer stored in 64 bits. -/
def wrap64 (value : Int) : Int := value.bmod (2 ^ 64)

def minute : Int := 60 * 10 ^ 9

def hour : Int := 60 * minute

/-! ## `ParseCertDuration` -/

inductive DurationError where
  | empty
  | invalidValue (text : String)
  | negative (value : Int)
  | invalidUnit (unit : Char)
  deriving DecidableEq

def isSpace (letter : Char) : Bool :=
  letter.val ∈ [0x09, 0x0a, 0x0b, 0x0c, 0x0d, 0x20, 0x85, 0xa0, 0x1680, 0x2028, 0x2029, 0x202f, 0x205f, 0x3000] ||
    (0x2000 ≤ letter.val && letter.val ≤ 0x200a)

def trimSpace (text : List Char) : List Char :=
  ((text.dropWhile isSpace).reverse.dropWhile isSpace).reverse

/-- The digits of `strconv.Atoi`, which rejects an empty text. -/
def parseDigits (text : List Char) : Option Int :=
  if text ≠ [] && text.all Char.isDigit then some (Nat.ofDigitChars 10 text 0) else none

/-- `strconv.Atoi`: an optional sign, digits, and a value which fits into 64 bits. -/
def atoi (text : List Char) : Option Int :=
  let value := match text with
    | '+' :: digits => parseDigits digits
    | '-' :: digits => (parseDigits digits).map Neg.neg
    | digits => parseDigits digits
  value.filter fun number => -2 ^ 63 ≤ number && number < 2 ^ 63

def parseCertDuration (text : String) : Except DurationError Int :=
  let trimmed := trimSpace text.toList
  match trimmed.getLast? with
  | none => .error .empty
  | some unit =>
    match atoi trimmed.dropLast with
    | none => .error (.invalidValue (String.ofList trimmed.dropLast))
    | some value =>
      if value < 0 then .error (.negative value)
      else
        match unit.toLower with
        | 'd' => .ok (wrap64 (value * 24 * hour))
        | 'h' => .ok (wrap64 (value * hour))
        | 'm' => .ok (wrap64 (value * minute))
        | _ => .error (.invalidUnit unit)

/-- A duration from the resource, which replaces a default when it is given and accepted. -/
def durationOr (text : String) (current : Int) : Int :=
  if text = "" then current
  else
    match parseCertDuration text with
    | .ok duration => duration
    | .error _ => current

/-! ## `CertificateOptions` -/

def defaultCAValidity : Int := 3650 * 24 * hour

def defaultCARenewalThreshold : Int := 60 * 24 * hour

def defaultNodeValidity : Int := 365 * 24 * hour

def defaultNodeRenewalThreshold : Int := 30 * 24 * hour

example : parseCertDuration "3650d" = .ok defaultCAValidity := by decide +kernel

/-- `v1.CertificateConfig`, without the fields of the subject. -/
structure CertificateConfig where
  (caValidity caRenewalThreshold indexerValidity indexerRenewalThreshold : String := "")
  (adminValidity adminRenewalThreshold dashboardValidity dashboardRenewalThreshold : String := "")
  (filebeatValidity filebeatRenewalThreshold : String := "")

/-- `CertificateOptions`, without the fields of the subject. -/
structure CertificateOptions where
  (caValidity caRenewalThreshold nodeValidity renewalThreshold adminValidity : Int)
  (adminRenewalThreshold dashboardValidity dashboardRenewalThreshold filebeatValidity : Int)
  filebeatRenewalThreshold : Int

def defaultCertificateOptions : CertificateOptions where
  caValidity := defaultCAValidity
  caRenewalThreshold := defaultCARenewalThreshold
  nodeValidity := defaultNodeValidity
  renewalThreshold := defaultNodeRenewalThreshold
  adminValidity := defaultNodeValidity
  adminRenewalThreshold := defaultNodeRenewalThreshold
  dashboardValidity := defaultNodeValidity
  dashboardRenewalThreshold := defaultNodeRenewalThreshold
  filebeatValidity := defaultNodeValidity
  filebeatRenewalThreshold := defaultNodeRenewalThreshold

def getCertOptions (config : Option CertificateConfig) : CertificateOptions :=
  let opts := defaultCertificateOptions
  match config with
  | none => opts
  | some cfg =>
    { nodeValidity := durationOr cfg.indexerValidity opts.nodeValidity
      renewalThreshold := durationOr cfg.indexerRenewalThreshold opts.renewalThreshold
      caValidity := durationOr cfg.caValidity opts.caValidity
      caRenewalThreshold := durationOr cfg.caRenewalThreshold opts.caRenewalThreshold
      adminValidity := durationOr cfg.adminValidity opts.adminValidity
      adminRenewalThreshold := durationOr cfg.adminRenewalThreshold opts.adminRenewalThreshold
      dashboardValidity := durationOr cfg.dashboardValidity opts.dashboardValidity
      dashboardRenewalThreshold := durationOr cfg.dashboardRenewalThreshold opts.dashboardRenewalThreshold
      filebeatValidity := durationOr cfg.filebeatValidity opts.filebeatValidity
      filebeatRenewalThreshold := durationOr cfg.filebeatRenewalThreshold opts.filebeatRenewalThreshold }

/-- What the getters have in common: a duration which is not positive is replaced. -/
def positiveOr (duration fallback : Int) : Int := if 0 < duration then duration else fallback

namespace CertificateOptions

variable (opts : CertificateOptions)

def getCAValidity : Int := positiveOr opts.caValidity defaultCAValidity

def getCARenewalThreshold : Int := positiveOr opts.caRenewalThreshold defaultCARenewalThreshold

def getNodeValidity : Int := positiveOr opts.nodeValidity defaultNodeValidity

def getRenewalThreshold : Int := positiveOr opts.renewalThreshold defaultNodeRenewalThreshold

def getAdminValidity : Int := positiveOr opts.adminValidity defaultNodeValidity

def getAdminRenewalThreshold : Int := positiveOr opts.adminRenewalThreshold defaultNodeRenewalThreshold

def getDashboardValidity : Int := positiveOr opts.dashboardValidity defaultNodeValidity

def getDashboardRenewalThreshold : Int :=
  positiveOr opts.dashboardRenewalThreshold defaultNodeRenewalThreshold

def getFilebeatValidity : Int := positiveOr opts.filebeatValidity defaultNodeValidity

def getFilebeatRenewalThreshold : Int :=
  positiveOr opts.filebeatRenewalThreshold defaultNodeRenewalThreshold

def validity : Leaf -> Int
  | .managerMaster | .managerWorker | .indexer => opts.getNodeValidity
  | .dashboard => opts.getDashboardValidity
  | .filebeat => opts.getFilebeatValidity
  | .admin => opts.getAdminValidity

def threshold : Leaf -> Int
  | .managerMaster | .managerWorker | .indexer => opts.getRenewalThreshold
  | .dashboard => opts.getDashboardRenewalThreshold
  | .filebeat => opts.getFilebeatRenewalThreshold
  | .admin => opts.getAdminRenewalThreshold

end CertificateOptions

/-! ## Renewal -/

/-- `NeedsRenewal`: the clock is past the threshold before the end of the certificate. -/
def needsRenewal (now notAfter threshold : Int) : Bool := notAfter - threshold < now

/-- The end which a certificate made now carries: its encoding drops the fraction of a second. -/
def notAfterOf (now validity : Int) : Int := now + validity - (now + validity) % 10 ^ 9

/-- The beginning which a certificate made now carries. -/
def notBeforeOf (now : Int) : Int := now - now % 10 ^ 9

def Outlasts (now validity threshold : Int) : Prop :=
  needsRenewal now (notAfterOf now validity) threshold = false
  deriving Decidable

end Certificates
end WazuhOperator
