import AutomationHub.Model.Basic
import Mathlib.Data.Rat.Floor

/-!
The three parsers behind a bearer token: the header, the payload of the token, and the
claims.

What the interpreter and its library do with a value is a parameter wherever only the
result matters; which exceptions they raise is not.
-/

set_option autoImplicit false

namespace AutomationHub.Auth

open Model

inductive FloatValue where
  | finite (value : ℚ)
  | infinite (negative : Bool)
  | notANumber
deriving DecidableEq

inductive JsonValue where
  | null
  | boolean (value : Bool)
  | integer (value : Int)
  | float (value : FloatValue)
  | string (value : String)
  | array (items : List JsonValue)
  | object (fields : List (String × JsonValue))

inductive PythonError where
  | valueError
  | typeError
  | overflowError
  | recursionError
deriving DecidableEq

inductive AuthenticationError where
  | missingCredentials
  | malformedAuthorizationHeader (rawValue : String)
  | invalidToken (message : String)
  | tokenExpired (expiredAt : Datetime)
deriving DecidableEq

inductive Raised where
  | auth (error : AuthenticationError)
  | uncaught (error : PythonError)
deriving DecidableEq

/-- What `json.loads` raises. -/
inductive LoadsError where
  | unicodeDecode (text : String)
  | jsonDecode (text : String)
  | other (error : PythonError)

structure Interpreter where
  lower : String → String
  /-- `repr` of a value that can be printed. -/
  repr : JsonValue → String
  /-- How many containers within one another `repr` may still descend into. -/
  depth : Nat
  /-- `UUID(text)`, which raises nothing but a `ValueError`. -/
  uuid : String → Option UUID
  /-- `float(text)`, which raises nothing but a `ValueError`. -/
  floatOfText : String → Option FloatValue
  /-- `a2b_base64`, which raises nothing but a `binascii.Error`, given with its text. -/
  a2bBase64 : String → Except String (List UInt8)
  loads : List UInt8 → Except LoadsError JsonValue
  /-- The offset of the local time from UTC, in seconds, at a Unix timestamp. -/
  utcOffset : Int → Int

section Values

/-- `bool(value)`. -/
def truthy : JsonValue → Bool
  | .null => false
  | .boolean value => value
  | .integer value => value != 0
  | .float value => value != .finite 0
  | .string value => value != ""
  | .array items => !items.isEmpty
  | .object fields => !fields.isEmpty

/-- Integers of more decimal digits are not converted to text. -/
def maxStrDigits : Nat := 4300

mutual

/-- What `repr(value)` raises. -/
def reprError (depth : Nat) : JsonValue → Option PythonError
  | .integer value => if 10 ^ maxStrDigits ≤ value.natAbs then some .valueError else none
  | .array items => if depth = 0 then some .recursionError else itemsError (depth - 1) items
  | .object fields => if depth = 0 then some .recursionError else fieldsError (depth - 1) fields
  | _ => none

def itemsError (depth : Nat) : List JsonValue → Option PythonError
  | [] => none
  | item :: rest => (reprError depth item).or (itemsError depth rest)

def fieldsError (depth : Nat) : List (String × JsonValue) → Option PythonError
  | [] => none
  | (_, value) :: rest => (reprError depth value).or (fieldsError depth rest)

end

def Interpreter.reprOf (python : Interpreter) (value : JsonValue) : Except PythonError String :=
  match reprError python.depth value with
  | some error => .error error
  | none => .ok (python.repr value)

def Interpreter.strOf (python : Interpreter) : JsonValue → Except PythonError String
  | .string value => .ok value
  | value => python.reprOf value

/-- The nearest double: 53 binary digits, ties to the even neighbour. -/
def nearestDouble (value : Int) : ℚ :=
  let exponent := value.natAbs.log2 - 52
  roundHalfEven (value / 2 ^ exponent) * 2 ^ exponent

/-- `float(value)`. -/
def Interpreter.floatOf (python : Interpreter) : JsonValue → Except PythonError FloatValue
  | .boolean value => .ok (.finite value.toNat)
  | .integer value => if 2 ^ 1024 ≤ |nearestDouble value| then .error .overflowError else .ok (.finite (nearestDouble value))
  | .float value => .ok value
  | .string value =>
      match python.floatOfText value with
      | some value => .ok value
      | none => .error .valueError
  | _ => .error .typeError

/-- The first of January 1970. -/
def unixEpoch : Nat := 62135596800000000

/-- `datetime.fromtimestamp(value, tz=None)`, the local time, whose zone `ensure_timezone_aware` then takes for UTC. -/
def Interpreter.fromTimestamp (python : Interpreter) : FloatValue → Except PythonError Datetime
  | .notANumber => .error .valueError
  | .infinite _ => .error .overflowError
  | .finite value =>
      let microseconds := roundHalfEven (value * 1000000)
      let wall := unixEpoch + microseconds + python.utcOffset (microseconds / 1000000) * 1000000
      if 0 ≤ wall ∧ wall ≤ Datetime.max then .ok wall.toNat else .error .valueError

end Values

section Parsers

variable (python : Interpreter)

def bearerAuthScheme : String := "Bearer"

/-- `text.split(maxsplit=1)` of a stripped text. -/
def splitOnce (text : List Char) : List (List Char) :=
  match text.dropWhile (!isSpace ·) with
  | [] => [text]
  | rest => [text.takeWhile (!isSpace ·), rest.dropWhile isSpace]

def extractBearerToken : (headerValue : Option String) → Except Raised String
  | none => .error (.auth .missingCredentials)
  | some headerValue =>
      if headerValue = "" ∨ strip headerValue = "" then .error (.auth .missingCredentials)
      else match splitOnce (strip headerValue).toList with
        | [scheme, token] =>
            if python.lower (String.ofList scheme) ≠ python.lower bearerAuthScheme then
              .error (.auth (.malformedAuthorizationHeader headerValue))
            else if token = [] then .error (.auth (.malformedAuthorizationHeader headerValue))
            else .ok (String.ofList token)
        | _ => .error (.auth (.malformedAuthorizationHeader headerValue))

def urlsafe : Char → Char
  | '-' => '+'
  | '_' => '/'
  | character => character

/-- `base64.urlsafe_b64decode`; a text outside ASCII raises a plain `ValueError`. -/
def urlsafeB64decode (text : List Char) : Except PythonError (Except String (List UInt8)) :=
  if text.all fun character => character.toNat < 128 then
    .ok (python.a2bBase64 (String.ofList (text.map urlsafe)))
  else .error .valueError

def couldNotBeDecoded (text : String) : Raised :=
  .auth (.invalidToken ("Token payload could not be decoded: " ++ text))

def decodeJwtPayloadUnverified (token : String) : Except Raised (List (String × JsonValue)) :=
  match token.toList.splitOn '.' with
  | [_, payloadSegment, _] =>
      let padded := payloadSegment ++ List.replicate ((4 - payloadSegment.length % 4) % 4) '='
      match urlsafeB64decode python padded with
      | .error error => .error (.uncaught error)
      | .ok (.error text) => .error (couldNotBeDecoded text)
      | .ok (.ok payloadBytes) =>
          match python.loads payloadBytes with
          | .error (.unicodeDecode text) => .error (couldNotBeDecoded text)
          | .error (.jsonDecode text) => .error (couldNotBeDecoded text)
          | .error (.other error) => .error (.uncaught error)
          | .ok (.object payload) => .ok payload
          | .ok _ => .error (.auth (.invalidToken "Token payload did not decode to a JSON object."))
  | segments => .error (.auth (.invalidToken
      ("Token does not have the expected three dot-separated segments; got " ++ toString segments.length ++ ".")))

/-- `claims.get(name)`. -/
def claimOf (claims : List (String × JsonValue)) (name : String) : JsonValue :=
  (claims.lookup name).getD .null

/-- The handler that puts `repr(value)` into its message. -/
def notAccepted {α : Type} (message : String) (value : JsonValue) : Except Raised α :=
  match python.reprOf value with
  | .error error => .error (.uncaught error)
  | .ok text => .error (.auth (.invalidToken (message ++ text)))

/-- The claims `sub` and `company_id`. -/
def uuidClaim (name missing : String) (value : JsonValue) : Except Raised UUID :=
  if !truthy value then .error (.auth (.invalidToken missing))
  else match python.strOf value with
    | .error .recursionError => .error (.uncaught .recursionError)
    | .error _ => notAccepted python ("Claims' '" ++ name ++ "' field is not a valid UUID: ") value
    | .ok text =>
        match python.uuid text with
        | some id => .ok id
        | none => notAccepted python ("Claims' '" ++ name ++ "' field is not a valid UUID: ") value

def userRole? : JsonValue → Option UserRole
  | .string value => [UserRole.employee, .approver, .admin].find? fun role => role.value == value
  | _ => none

/-- The claim `role`; `UserRole(value)` puts `repr(value)` into its own `ValueError` first. -/
def roleClaim (value : JsonValue) : Except Raised UserRole :=
  if !truthy value then .error (.auth (.invalidToken "Claims are missing a required 'role' field."))
  else match userRole? value with
    | some role => .ok role
    | none =>
        match python.reprOf value with
        | .error .recursionError => .error (.uncaught .recursionError)
        | _ => notAccepted python "Claims' 'role' field is not recognized: " value

/-- The local time that the claim `exp` names. -/
def localExpiry (value : JsonValue) : Except PythonError Datetime := do
  python.fromTimestamp (← python.floatOf value)

structure EstablishedIdentity where
  userId : UUID
  email : JsonValue
  role : UserRole
  companyId : UUID
  isPlatformAdmin : Bool
  expiresAt : Option Datetime
  rawClaims : List (String × JsonValue)

def expiryClaim (now : Datetime) : JsonValue → Except Raised (Option Datetime)
  | .null => .ok none
  | value =>
      match localExpiry python value with
      | .error error => .error (.uncaught error)
      | .ok expiresAt =>
          if isPast expiresAt now then .error (.auth (.tokenExpired expiresAt)) else .ok (some expiresAt)

/-- `AuthenticatedIdentity.from_claims` at the instant `now`. -/
def fromClaims (now : Datetime) (claims : List (String × JsonValue)) : Except Raised EstablishedIdentity := do
  let userId ← uuidClaim python "sub" "Claims are missing a required 'sub' (subject) field." (claimOf claims "sub")
  let role ← roleClaim python (claimOf claims "role")
  let companyId ← uuidClaim python "company_id" "Claims are missing a required 'company_id' field."
    (claimOf claims "company_id")
  let expiresAt ← expiryClaim python now (claimOf claims "exp")
  return {
    userId, email := claimOf claims "email", role, companyId,
    isPlatformAdmin := truthy ((claims.lookup "is_platform_admin").getD (.boolean false)), expiresAt,
    rawClaims := claims }

end Parsers

section Outcomes

/-- The call returns, or raises a subclass of `AuthError`. -/
def AuthErrorsOnly {α : Type} (result : Except Raised α) : Prop :=
  ∀ error, result ≠ .error (.uncaught error)

/-- The claims but for `exp` make an identity. -/
def OthersValid (python : Interpreter) (claims : List (String × JsonValue)) : Prop :=
  (∃ userId, uuidClaim python "sub" "Claims are missing a required 'sub' (subject) field." (claimOf claims "sub")
      = .ok userId) ∧
    (∃ role, roleClaim python (claimOf claims "role") = .ok role) ∧
    ∃ companyId, uuidClaim python "company_id" "Claims are missing a required 'company_id' field."
      (claimOf claims "company_id") = .ok companyId

/-- The value is a number that, as a Unix timestamp, is earlier than the instant. -/
def EarlierThan (now : Datetime) : JsonValue → Prop
  | .integer value => unixEpoch + value * 1000000 < now
  | .float (.finite value) => unixEpoch + value * 1000000 < now
  | .float (.infinite negative) => negative = true
  | _ => False

/-- Only authentication errors are raised, and the one of an expired token exactly if the other claims are valid and `exp`
is earlier than the current time. -/
structure ClaimsAsMeant (python : Interpreter) (now : Datetime) (claims : List (String × JsonValue)) : Prop where
  caught : AuthErrorsOnly (fromClaims python now claims)
  expired : (∃ expiresAt, fromClaims python now claims = .error (.auth (.tokenExpired expiresAt))) ↔
    OthersValid python claims ∧ EarlierThan now (claimOf claims "exp")

/-- An id that is given can be put into a message. -/
def Printable (python : Interpreter) (value : JsonValue) : Prop :=
  truthy value = true → reprError python.depth value = none

/-- The claims that are looked at can be put into a message, and `exp`, converted to a local time and read as one of UTC, is
a time on the same side of the current one. -/
structure ClaimsConvert (python : Interpreter) (now : Datetime) (claims : List (String × JsonValue)) : Prop where
  sub : Printable python (claimOf claims "sub")
  role : (∃ userId, uuidClaim python "sub" "Claims are missing a required 'sub' (subject) field." (claimOf claims "sub")
    = .ok userId) → Printable python (claimOf claims "role")
  companyId : (∃ userId, uuidClaim python "sub" "Claims are missing a required 'sub' (subject) field."
    (claimOf claims "sub") = .ok userId) → (∃ role, roleClaim python (claimOf claims "role") = .ok role) →
      Printable python (claimOf claims "company_id")
  exp : OthersValid python claims → claimOf claims "exp" = .null ∨
    ∃ expiresAt, localExpiry python (claimOf claims "exp") = .ok expiresAt ∧
      (expiresAt < now ↔ EarlierThan now (claimOf claims "exp"))

/-- The payload of a token of three segments is written in ASCII, and `json.loads` does not give up on it. -/
def PayloadConverts (python : Interpreter) (token : String) : Prop :=
  ∀ header payload signature, token.toList.splitOn '.' = [header, payload, signature] →
    (payload.all fun character => character.toNat < 128) = true ∧
      ∀ payloadBytes, python.a2bBase64 (String.ofList ((payload ++
        List.replicate ((4 - payload.length % 4) % 4) '=').map urlsafe)) = .ok payloadBytes →
          ∀ error, python.loads payloadBytes ≠ .error (.other error)

variable {python : Interpreter}

theorem extractBearerToken_caught (headerValue : Option String) :
    AuthErrorsOnly (extractBearerToken python headerValue) := by
  intro error
  cases headerValue with
  | none => simp [extractBearerToken]
  | some headerValue =>
      unfold extractBearerToken
      dsimp only
      split
      · simp
      · split
        · split
          · simp
          · split <;> simp
        · simp

theorem urlsafeB64decode_padded (payload : List Char) :
    urlsafeB64decode python (payload ++ List.replicate ((4 - payload.length % 4) % 4) '=') =
      if payload.all fun character => character.toNat < 128 then
        .ok (python.a2bBase64 (String.ofList ((payload ++
          List.replicate ((4 - payload.length % 4) % 4) '=').map urlsafe)))
      else .error .valueError := by
  have padding : ∀ count, (List.replicate count '=').all (fun character => character.toNat < 128) = true := by
    intro count
    simp
  rw [urlsafeB64decode, List.all_append, padding, Bool.and_true]

theorem decodeJwtPayloadUnverified_caught_iff (token : String) :
    AuthErrorsOnly (decodeJwtPayloadUnverified python token) ↔ PayloadConverts python token := by
  unfold decodeJwtPayloadUnverified PayloadConverts AuthErrorsOnly
  split
  · rename_i header payload signature segments
    dsimp only
    rw [urlsafeB64decode_padded, segments]
    have only : ∀ condition : List Char → Prop,
        (∀ first second third, [header, payload, signature] = [first, second, third] → condition second) ↔
          condition payload := by
      intro condition
      constructor
      · exact fun every => every header payload signature rfl
      · intro holds first second third same
        simp only [List.cons.injEq, and_true] at same
        exact same.2.1 ▸ holds
    rw [only fun payload => (payload.all fun character => character.toNat < 128) = true ∧
      ∀ payloadBytes, python.a2bBase64 (String.ofList ((payload ++
        List.replicate ((4 - payload.length % 4) % 4) '=').map urlsafe)) = .ok payloadBytes →
          ∀ error, python.loads payloadBytes ≠ .error (.other error)]
    cases payload.all fun character => character.toNat < 128 with
    | false => simp
    | true =>
        simp only [if_true, true_and]
        cases python.a2bBase64 (String.ofList ((payload ++
            List.replicate ((4 - payload.length % 4) % 4) '=').map urlsafe)) with
        | error text => simp [couldNotBeDecoded]
        | ok payloadBytes =>
            simp only [Except.ok.injEq, forall_eq']
            cases python.loads payloadBytes with
            | error error => cases error <;> simp [couldNotBeDecoded]
            | ok value => cases value <;> simp
  · rename_i segments other
    refine iff_of_true (by simp) ?_
    intro header payload signature same
    exact absurd same (other header payload signature)

theorem strOf_of_error {value : JsonValue} {error : PythonError} (fails : reprError python.depth value = some error) :
    python.strOf value = .error error ∧ python.reprOf value = .error error := by
  have raised : python.reprOf value = .error error := by
    rw [Interpreter.reprOf, fails]
  cases value with
  | string text => simp [reprError] at fails
  | _ => exact ⟨raised, raised⟩

theorem strOf_of_none {value : JsonValue} (prints : reprError python.depth value = none) :
    (∃ text, python.strOf value = .ok text) ∧ python.reprOf value = .ok (python.repr value) := by
  have printed : python.reprOf value = .ok (python.repr value) := by
    rw [Interpreter.reprOf, prints]
  cases value with
  | string text => exact ⟨⟨text, rfl⟩, printed⟩
  | _ => exact ⟨⟨_, printed⟩, printed⟩

/-- What becomes of a claim: it is accepted or refused if it can be printed, and raises something else if not. -/
def Settles {α : Type} (python : Interpreter) (value : JsonValue) (result : Except Raised α) : Prop :=
  if truthy value = true ∧ reprError python.depth value ≠ none then ∃ error, result = .error (.uncaught error)
  else (∃ accepted, result = .ok accepted) ∨ ∃ message, result = .error (.auth (.invalidToken message))

theorem settles_uuidClaim (name missing : String) (value : JsonValue) :
    Settles python value (uuidClaim python name missing value) := by
  unfold Settles uuidClaim
  cases truthy value with
  | false => simp
  | true =>
      cases printed : reprError python.depth value with
      | some error =>
          obtain ⟨text, quoted⟩ := strOf_of_error printed
          cases error <;> simp [text, quoted, notAccepted]
      | none =>
          obtain ⟨⟨text, converted⟩, quoted⟩ := strOf_of_none printed
          cases parsed : python.uuid text <;> simp [converted, quoted, notAccepted, parsed]

theorem settles_roleClaim (value : JsonValue) : Settles python value (roleClaim python value) := by
  unfold Settles roleClaim
  cases truthy value with
  | false => simp
  | true =>
      cases printed : reprError python.depth value with
      | some error =>
          obtain ⟨_, quoted⟩ := strOf_of_error printed
          have unknown : userRole? value = none := by
            cases value with
            | string text => simp [reprError] at printed
            | _ => rfl
          cases error <;> simp [unknown, quoted, notAccepted]
      | none =>
          obtain ⟨_, quoted⟩ := strOf_of_none printed
          cases recognized : userRole? value <;> simp [quoted, notAccepted]

theorem settles_printable {α : Type} {value : JsonValue} {result : Except Raised α} (settles : Settles python value result) :
    (Printable python value ∧ ((∃ accepted, result = .ok accepted) ∨
        ∃ message, result = .error (.auth (.invalidToken message)))) ∨
      (¬Printable python value ∧ ∃ error, result = .error (.uncaught error)) := by
  unfold Settles at settles
  split at settles
  · rename_i fails
    exact .inr ⟨fun prints => fails.2 (prints fails.1), settles⟩
  · rename_i prints
    refine .inl ⟨fun given => ?_, settles⟩
    by_contra fails
    exact prints ⟨given, fails⟩

theorem expiryClaim_of_ok {now expiresAt : Datetime} {value : JsonValue} (given : value ≠ .null)
    (converted : localExpiry python value = .ok expiresAt) : expiryClaim python now value =
      if isPast expiresAt now then .error (.auth (.tokenExpired expiresAt)) else .ok (some expiresAt) := by
  cases value with
  | null => exact absurd rfl given
  | _ => simp [expiryClaim, converted]

theorem expiryClaim_of_error {now : Datetime} {value : JsonValue} {error : PythonError} (given : value ≠ .null)
    (fails : localExpiry python value = .error error) : expiryClaim python now value = .error (.uncaught error) := by
  cases value with
  | null => exact absurd rfl given
  | _ => simp [expiryClaim, fails]

variable {now : Datetime} {claims : List (String × JsonValue)}

theorem claimsAsMeant_of_refused {message : String}
    (refused : fromClaims python now claims = .error (.auth (.invalidToken message)))
    (invalid : ¬OthersValid python claims) : ClaimsAsMeant python now claims where
  caught := by
    intro error
    rw [refused]
    simp
  expired := by
    rw [refused]
    simp [invalid]

theorem not_claimsAsMeant_of_uncaught {error : PythonError}
    (raised : fromClaims python now claims = .error (.uncaught error)) : ¬ClaimsAsMeant python now claims :=
  fun meant => meant.caught error raised

theorem expiryClaim_asMeant_iff {identity : Option Datetime → EstablishedIdentity}
    (read : fromClaims python now claims = (expiryClaim python now (claimOf claims "exp")).map identity)
    (valid : OthersValid python claims) :
    ClaimsAsMeant python now claims ↔ claimOf claims "exp" = .null ∨
      ∃ expiresAt, localExpiry python (claimOf claims "exp") = .ok expiresAt ∧
        (expiresAt < now ↔ EarlierThan now (claimOf claims "exp")) := by
  by_cases given : claimOf claims "exp" = .null
  · refine iff_of_true ⟨?_, ?_⟩ (.inl given)
    · intro error
      rw [read, given]
      simp [expiryClaim, Except.map]
    · rw [read, given]
      simp [expiryClaim, Except.map, EarlierThan]
  · simp only [given, false_or]
    cases converted : localExpiry python (claimOf claims "exp") with
    | error error =>
        rw [expiryClaim_of_error given converted] at read
        refine iff_of_false (not_claimsAsMeant_of_uncaught read) ?_
        simp
    | ok expiresAt =>
        rw [expiryClaim_of_ok given converted] at read
        have past : isPast expiresAt now = true ↔ expiresAt < now := by
          rw [isPast, decide_eq_true_eq]
        simp only [Except.ok.injEq, exists_eq_left']
        rw [← past]
        cases elapsed : isPast expiresAt now with
        | true =>
            rw [elapsed] at read
            have raised : fromClaims python now claims = .error (.auth (.tokenExpired expiresAt)) := read
            constructor
            · intro meant
              exact iff_of_true rfl (meant.expired.mp ⟨expiresAt, raised⟩).2
            · intro same
              refine ⟨?_, iff_of_true ⟨expiresAt, raised⟩ ⟨valid, same.mp rfl⟩⟩
              intro error
              rw [raised]
              simp
        | false =>
            rw [elapsed] at read
            have returned : fromClaims python now claims = .ok (identity (some expiresAt)) := read
            constructor
            · intro meant
              refine iff_of_false Bool.false_ne_true fun earlier => ?_
              obtain ⟨_, raised⟩ := meant.expired.mpr ⟨valid, earlier⟩
              rw [returned] at raised
              cases raised
            · intro same
              constructor
              · intro error
                rw [returned]
                simp
              · rw [returned]
                refine iff_of_false (by simp) fun earlier => ?_
                exact Bool.false_ne_true (same.mpr earlier.2)

/-- The claims are read as they should be exactly if the conversions go through and `exp` keeps its side of the current
time. -/
theorem claimsAsMeant_iff : ClaimsAsMeant python now claims ↔ ClaimsConvert python now claims := by
  rcases settles_printable (@settles_uuidClaim python "sub" "Claims are missing a required 'sub' (subject) field."
    (claimOf claims "sub")) with ⟨subPrints, ⟨userId, sub⟩ | ⟨message, sub⟩⟩ | ⟨subFails, error, sub⟩
  · rcases settles_printable (@settles_roleClaim python (claimOf claims "role")) with
      ⟨rolePrints, ⟨role, recognized⟩ | ⟨message, recognized⟩⟩ | ⟨roleFails, error, recognized⟩
    · rcases settles_printable (@settles_uuidClaim python "company_id"
        "Claims are missing a required 'company_id' field." (claimOf claims "company_id")) with
        ⟨companyPrints, ⟨companyId, company⟩ | ⟨message, company⟩⟩ | ⟨companyFails, error, company⟩
      · have valid : OthersValid python claims := ⟨⟨userId, sub⟩, ⟨role, recognized⟩, ⟨companyId, company⟩⟩
        rw [expiryClaim_asMeant_iff (by simp [fromClaims, sub, recognized, company, bind, Except.bind, Except.map]; rfl) valid]
        constructor
        · exact fun exp => ⟨subPrints, fun _ => rolePrints, fun _ _ => companyPrints, fun _ => exp⟩
        · exact fun converts => converts.exp valid
      · have invalid : ¬OthersValid python claims := by
          simp [OthersValid, company]
        refine iff_of_true (@claimsAsMeant_of_refused python now claims message ?_ invalid) ?_
        · simp [fromClaims, sub, recognized, company, bind, Except.bind]
        · exact ⟨subPrints, fun _ => rolePrints, fun _ _ => companyPrints, fun valid => absurd valid invalid⟩
      · refine iff_of_false (@not_claimsAsMeant_of_uncaught python now claims error ?_) ?_
        · simp [fromClaims, sub, recognized, company, bind, Except.bind]
        · exact fun converts => companyFails (converts.companyId ⟨userId, sub⟩ ⟨role, recognized⟩)
    · have invalid : ¬OthersValid python claims := by
        simp [OthersValid, recognized]
      refine iff_of_true (@claimsAsMeant_of_refused python now claims message ?_ invalid) ?_
      · simp [fromClaims, sub, recognized, bind, Except.bind]
      · refine ⟨subPrints, fun _ => rolePrints, ?_, fun valid => absurd valid invalid⟩
        simp [recognized]
    · refine iff_of_false (@not_claimsAsMeant_of_uncaught python now claims error ?_) ?_
      · simp [fromClaims, sub, recognized, bind, Except.bind]
      · exact fun converts => roleFails (converts.role ⟨userId, sub⟩)
  · have invalid : ¬OthersValid python claims := by
      simp [OthersValid, sub]
    refine iff_of_true (@claimsAsMeant_of_refused python now claims message ?_ invalid) ?_
    · simp [fromClaims, sub, bind, Except.bind]
    · refine ⟨subPrints, ?_, ?_, fun valid => absurd valid invalid⟩ <;> simp [sub]
  · refine iff_of_false (@not_claimsAsMeant_of_uncaught python now claims error ?_) ?_
    · simp [fromClaims, sub, bind, Except.bind]
    · exact fun converts => subFails converts.sub

end Outcomes

section Samples

/-- An interpreter of 2026 in a zone eight hours behind UTC. -/
def pacificInterpreter : Interpreter where
  lower := String.map Char.toLower
  repr := fun _ => "..."
  depth := 900
  uuid := fun text => if text.length = 36 then some 7 else none
  floatOfText := fun _ => none
  a2bBase64 := fun _ => .ok []
  loads := fun _ => .error (.jsonDecode "Expecting value: line 1 column 1 (char 0)")
  utcOffset := fun _ => -28800

/-- Claims whose token expires at noon of the 17th of July 2026. -/
def noonClaims (exp : JsonValue) : List (String × JsonValue) :=
  [("sub", .string "11111111-1111-1111-1111-111111111111"), ("role", .string "admin"),
    ("company_id", .string "22222222-2222-2222-2222-222222222222"), ("exp", exp)]

/-- An hour before that noon. -/
def eleven : Datetime := unixEpoch + 1784286000 * 1000000

def raisedBy {α : Type} : Except Raised α → Option Raised
  | .error error => some error
  | .ok _ => none

theorem eq_error_of_raisedBy {α : Type} {result : Except Raised α} {error : Raised}
    (raised : raisedBy result = some error) : result = .error error := by
  cases result with
  | error other => exact congrArg Except.error (Option.some.inj raised)
  | ok value => cases raised

end Samples

end AutomationHub.Auth
