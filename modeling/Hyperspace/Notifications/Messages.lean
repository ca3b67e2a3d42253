import Hyperspace.Foundations.Html
import Hyperspace.Foundations.Json

/-!
# The mails of the billing

What `renderBillingNotification` makes of a row of the outbox, as text and as HTML. The labels of
the configs are texts of their owner; in the HTML they are shown and nothing else.
-/

namespace Hyperspace.Notifications

open Hyperspace.Foundations

/-! ### Numbers and texts -/

/-- The finite number of a field, and 0 otherwise. -/
def readNumber : Option Json → ℚ
  | some (.num n) => n
  | some .null | some (.bool _) | some (.str _) | some (.arr _) | some (.obj _) | none => 0

def readString : Option Json → String
  | some (.str s) => s
  | some .null | some (.bool _) | some (.num _) | some (.arr _) | some (.obj _) | none => ""

/-- Commas between the thousands. -/
def groupThousands (digits : List Char) : List Char :=
  List.intercalate [','] ((digits.reverse.toChunks 3).map List.reverse).reverse

/-- US dollars as `Intl.NumberFormat` writes them, rounded half away from zero. -/
def formatMoney (minor : ℚ) : String :=
  let cents := (|minor| + 1 / 2).floor.toNat
  (if minor < 0 then "-$" else "$") ++
    String.ofList (groupThousands (Decimals.write (cents / 100))) ++
    "." ++ String.ofList [Nat.digitChar (cents % 100 / 10), Nat.digitChar (cents % 10)]

/-- The value of a digit in a base up to 16. -/
def digitOf (base : Nat) (c : Char) : Option Nat :=
  let value :=
    if c.isDigit then some (c.toNat - 48)
    else if 97 ≤ c.toNat ∧ c.toNat ≤ 102 then some (c.toNat - 87)
    else if 65 ≤ c.toNat ∧ c.toNat ≤ 70 then some (c.toNat - 55)
    else none
  value.filter (· < base)

/-- At least one digit. -/
def readDigits (base : Nat) (s : List Char) : Option Nat :=
  if s = [] then none
  else (s.mapM (digitOf base)).map fun digits => digits.foldl (fun n d => n * base + d) 0

/-- `BigInt(value)`; `none` where it throws. -/
def bigInt? (value : String) : Option Int :=
  match (Json.trim value).toList with
  | [] => some 0
  | '+' :: s => (readDigits 10 s).map Int.ofNat
  | '-' :: s => (readDigits 10 s).map fun n => -(n : Int)
  | '0' :: 'x' :: s | '0' :: 'X' :: s => (readDigits 16 s).map Int.ofNat
  | '0' :: 'o' :: s | '0' :: 'O' :: s => (readDigits 8 s).map Int.ofNat
  | '0' :: 'b' :: s | '0' :: 'B' :: s => (readDigits 2 s).map Int.ofNat
  | s => (readDigits 10 s).map Int.ofNat

def formatDecimal (value divisor : Nat) : String :=
  let whole := String.ofList (Decimals.write (value / divisor))
  if value % divisor = 0 then whole
  else whole ++ "." ++ String.ofList (Decimals.write (value % divisor * 10 / divisor))

def formatTrafficBytes (value : String) : String :=
  match bigInt? value with
  | some bytes =>
    if 1000000000 ≤ bytes then formatDecimal bytes.toNat 1000000000 ++ " GB" else "50 GB"
  | none => "50 GB"

/-! ### Configs -/

/-- A config as a message names it. -/
structure NotifiedConfig where
  id : String
  label : String

def readConfigs : Option Json → List NotifiedConfig
  | some (.arr items) =>
    (items.map fun item => ⟨readString (item.field? "id"), readString (item.field? "label")⟩).filter
      fun config : NotifiedConfig => config.id ≠ "" ∨ config.label ≠ ""
  | some .null | some (.bool _) | some (.num _) | some (.str _) | some (.obj _) | none => []

/-- `value || other`. -/
def orElse (value other : String) : String := if value = "" then other else value

def configText (configs : List NotifiedConfig) : String :=
  if configs = [] then ""
  else "\nAffected configs:\n" ++
    "\n".intercalate (configs.map fun config => "- " ++ orElse config.label config.id)

/-! ### Mails -/

/-- A row of the outbox as a claim returns it. -/
structure BillingNotificationRow where
  id : Nat
  accountId : Nat
  notificationType : String
  recipientEmail : String
  payload : Json
  attemptCount : Nat

/-- A mail in its two forms. -/
structure BillingMessage where
  subject : String
  text : String
  html : String
  deriving DecidableEq

/-- The subject and the body by the type of the notification. -/
def subjectAndBody (notificationType : String) (payload : Json) : String × String :=
  let balance := formatMoney (readNumber (payload.field? "balanceMinor"))
  let dueAt := readString (payload.field? "suspensionDueAt")
  let eligibleAt := orElse (readString (payload.field? "withdrawalEligibleAt"))
    (readString (payload.field? "eligibleAt"))
  let configs := configText (readConfigs (payload.field? "configs"))
  if notificationType = "billing_grace_started" then
    ("Action required: Hyperspace balance exhausted",
      "Your available balance is " ++ balance ++
        ". Active VPN configs are in a grace period and are scheduled to be disabled at " ++
        orElse dueAt "the configured deadline" ++
        ". Top up before that time to keep them active." ++ configs)
  else if notificationType = "billing_configs_suspended" then
    ("Hyperspace VPN configs disabled",
      "Your VPN configs were disabled because the prepaid balance remains " ++ balance ++
        ". They will not reactivate automatically after a top-up." ++ configs)
  else if notificationType = "billing_balance_restored" then
    ("Hyperspace balance restored",
      "Your available balance is now " ++ balance ++
        ". Any configs already disabled for billing remain disabled; " ++
        "create or enable a config explicitly.")
  else if notificationType = "billing_withdrawal_requested" then
    ("Hyperspace withdrawal cooldown started",
      "Your withdrawal request is recorded. It becomes eligible after " ++
        orElse eligibleAt "the configured cooldown" ++
        ", provided every VPN config remains disabled.")
  else if notificationType = "billing_withdrawal_confirmed" then
    ("Hyperspace withdrawal completed",
      "Your unused paid balance was sent. Solana transaction: " ++
        readString (payload.field? "transactionSignature"))
  else if notificationType = "traffic_quota_exhausted" then
    ("Hyperspace VPN config traffic limit reached",
      "Your VPN config reached its " ++
        formatTrafficBytes (readString (payload.field? "includedBytes")) ++
        " traffic allowance and has been disabled. No debt or overage charge was created." ++
        configs)
  else ("Hyperspace billing update", "Your Hyperspace billing account was updated.")

def footer : String := "\n\nQuestions or test-credit requests: gatekeepers@hyperspace.zone"

def footerHtml : String :=
  "</p><p>Questions or test-credit requests: " ++
    "<a href=\"mailto:gatekeepers@hyperspace.zone\">gatekeepers@hyperspace.zone</a></p>"

/-- `escapeHtml(body).replace(/\n/g, "<br>")`. -/
def bodyHtml (body : String) : String :=
  String.ofList ((Html.escape body.toList).flatMap fun c => if c = '\n' then "<br>".toList else [c])

def renderBillingNotification (notification : BillingNotificationRow) : BillingMessage :=
  let (subject, body) := subjectAndBody notification.notificationType notification.payload
  { subject
    text := body ++ footer
    html := "<p>" ++ bodyHtml body ++ footerHtml }

/-! ### What a reader sees -/

/-- A character of the body in the mail. -/
def shown (c : Char) : Html.Token := if c = '\n' then .tag "br".toList else .char c

theorem flatMap_escapeChar {c : Char} :
    (Html.escapeChar c).flatMap (fun d => if d = '\n' then "<br>".toList else [d]) =
      if c = '\n' then "<br>".toList else Html.escapeChar c := by
  unfold Html.escapeChar
  split
  · rfl
  · rfl
  · rfl
  · rfl
  · rfl
  · exact List.flatMap_singleton _ _

theorem read_bodyHtml {body : String} {rest : List Char} :
    Html.read .text ((bodyHtml body).toList ++ rest) =
      (Html.read .text rest).map (body.toList.map shown ++ ·) := by
  have hBody : (bodyHtml body).toList = body.toList.flatMap fun c =>
      if c = '\n' then "<br>".toList else Html.escapeChar c := by
    unfold bodyHtml Html.escape
    rw [String.toList_ofList, List.flatMap_assoc]
    simp only [flatMap_escapeChar]
  rw [hBody]
  apply Html.read_flatMap
  intro c rest
  unfold shown
  split
  · exact Html.read_tag (show '>' ∉ "br".toList by decide)
  · exact Html.read_escapeChar

/-- What follows the body. -/
def footerTokens : List Html.Token :=
  [.tag "/p".toList, .tag "p".toList] ++
    "Questions or test-credit requests: ".toList.map .char ++
    [.tag "a href=\"mailto:gatekeepers@hyperspace.zone\"".toList] ++
    "gatekeepers@hyperspace.zone".toList.map .char ++ [.tag "/a".toList, .tag "/p".toList]

/-- The HTML of a mail shows the body of its text and adds two paragraphs and a link: nothing in the
payload opens a tag. -/
theorem html_shows_body (notification : BillingNotificationRow) :
    ∃ body, (renderBillingNotification notification).text = body ++ footer ∧
      Html.read .text (renderBillingNotification notification).html.toList =
        some (.tag "p".toList :: (body.toList.map shown ++ footerTokens)) := by
  refine ⟨(subjectAndBody notification.notificationType notification.payload).2, rfl, ?_⟩
  have hFooter : Html.read .text footerHtml.toList = some footerTokens := by
    decide +kernel
  unfold renderBillingNotification
  dsimp only
  rw [String.toList_append, String.toList_append, List.append_assoc]
  have hOpen : ∀ rest, Html.read .text ("<p>".toList ++ rest) =
      (Html.read .text rest).map (.tag "p".toList :: ·) := fun rest =>
    Html.read_tag (show '>' ∉ "p".toList by decide)
  rw [hOpen, read_bodyHtml, hFooter]
  rfl

end Hyperspace.Notifications
