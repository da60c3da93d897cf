/-
What a command makes of any answer.

Every answer to a command that asks for an operation leads to one of four exit codes, and which it
is is up to the status and to what the body spells, whatever the body is (`classifies_reportLock`).
An answer that refuses is explained by the error that its body spells, or by the body itself without
the blanks around it (`rejection_of_spells`, `rejection_of_not_spells`).

The service writes its errors in one way, and this is one of the ways in which they are read. They
are read in others too: an array of the same parts in their order is taken for an error as well.
-/
import KeyedLocks.Proofs.Client.Grammar
import KeyedLocks.Proofs.Client.Transparency

set_option autoImplicit false

namespace KeyedLocks

open KeyedLocks.Json

/-! ## Cutting off blanks -/

namespace Client

/-- What is left behind the blanks at the beginning does not begin with a blank. -/
theorem not_isBlank_of_head?_dropWhile {cs : List Char} {c : Char}
    (head : (cs.dropWhile Text.isBlank).head? = some c) : Text.isBlank c = false := by
  have first := List.head?_dropWhile_not Text.isBlank cs
  rw [head] at first
  exact first

/-- **Trimming** cuts off the blanks at both ends and nothing else. -/
theorem trims_trimChars (cs : List Char) : Trims cs (Text.trimChars cs) := by
  let rest := cs.dropWhile Text.isBlank
  have back : rest = Text.trimChars cs ++ (rest.reverse.takeWhile Text.isBlank).reverse := by
    rw [Text.trimChars, ← List.reverse_append, List.takeWhile_append_dropWhile,
      List.reverse_reverse]
  refine ⟨⟨cs.takeWhile Text.isBlank, (rest.reverse.takeWhile Text.isBlank).reverse, ?_,
    fun c hc => List.mem_takeWhile_imp hc,
    fun c hc => List.mem_takeWhile_imp (List.mem_reverse.1 hc)⟩, fun c hc => ?_, fun c hc => ?_⟩
  · rw [List.append_assoc, ← back]
    exact List.takeWhile_append_dropWhile.symm
  -- Both ends are shown in the same way: what is left after blanks were dropped does not begin with
  -- one.
  · have head : rest.head? = some c := by
      rw [back, List.head?_append, hc]
      rfl
    exact not_isBlank_of_head?_dropWhile head
  · rw [Text.trimChars, List.getLast?_reverse] at hc
    exact not_isBlank_of_head?_dropWhile hc

/-! ## Answers that refuse -/

variable {status : Nat} {body : List Char} {url : String}

/-- An error in a body is told as it stands there. -/
theorem rejection_of_spells {e : ErrorDetail} (spelled : SpellsError body e) :
    rejection status body = .rejected status (e.code ++ ": " ++ e.message) := by
  rw [rejection, (decodeText_errorBodyForm_iff body e).2 spelled]

/-- Any other body is told itself, without the blanks around it. -/
theorem rejection_of_not_spells (none : ∀ e, ¬ SpellsError body e) :
    rejection status body = .rejected status (String.ofList (Text.trimChars body)) := by
  rw [rejection]
  cases decoded : decodeText errorBodyForm.decode body with
  | error => rfl
  | ok e => exact absurd ((decodeText_errorBodyForm_iff body e).1 decoded) (none e)

/-- Whatever a refusal says, the code is 2. -/
theorem exitCode_rejection (status : Nat) (body : List Char) :
    (rejection status body).exitCode = 2 := by
  rw [rejection]
  split <;> rfl

/-! ## Exit codes -/

/-- A status of success. -/
def Succeeds (status : Nat) : Prop := 200 ≤ status ∧ status < 300

/-- The statuses that count as a success are those from 200 up to 299. -/
theorem isSuccess_iff : isSuccess status = true ↔ Succeeds status := by
  rw [isSuccess, Bool.and_eq_true, decide_eq_true_eq, decide_eq_true_eq]
  rfl

/-- An exit code tells of an answer whether the operation succeeded, whether it did not, whether the
request was refused, or whether the answer makes no sense. -/
structure Classifies (exit : Nat) (status : Nat) (body : List Char) : Prop where
  success : exit = 0 ↔ Succeeds status ∧ ∃ r, SpellsResponse body r ∧ r.success = true
  failure : exit = 1 ↔ Succeeds status ∧ ∃ r, SpellsResponse body r ∧ r.success = false
  refusal : exit = 2 ↔ ¬ Succeeds status
  nonsense : exit = 3 ↔ Succeeds status ∧ ∀ r, ¬ SpellsResponse body r

/-- A body spells one response at most. -/
theorem spellsResponse_unique {r r' : Response} (h : SpellsResponse body r)
    (h' : SpellsResponse body r') : r = r' :=
  Except.ok.inj <| ((decodeText_decodeResponse_iff body r).2 h).symm.trans
    ((decodeText_decodeResponse_iff body r').2 h')

/-- With any other status the body is read for a reason and nothing else. -/
theorem reportLock_of_refusal (refused : ¬ Succeeds status) :
    reportLock url status body = .ofError (rejection status body) := by
  rw [reportLock, readReply, if_neg (isSuccess_iff.not.2 refused)]

/-- With such a status a body that spells a response is taken for it. -/
theorem reportLock_of_response {r : Response} (fine : Succeeds status)
    (spelled : SpellsResponse body r) : reportLock url status body = .ofResponse r := by
  rw [reportLock, readReply, if_pos (isSuccess_iff.2 fine),
    (decodeText_decodeResponse_iff body r).2 spelled]

/-- With such a status a body that spells none makes no sense, and the code is 3. -/
theorem exit_of_nonsense (fine : Succeeds status) (none : ∀ r, ¬ SpellsResponse body r) :
    (reportLock url status body).exit = 3 := by
  rw [reportLock, readReply, if_pos (isSuccess_iff.2 fine)]
  cases decoded : decodeText Wire.decodeResponse body with
  | error => rfl
  | ok r => exact absurd ((decodeText_decodeResponse_iff body r).1 decoded) (none r)

/-- **Every answer** has its exit code. -/
theorem classifies_reportLock (url : String) (status : Nat) (body : List Char) :
    Classifies (reportLock url status body).exit status body := by
  -- The status comes first: the body is asked for a response only if the status is one of success.
  by_cases fine : Succeeds status
  · by_cases spelled : ∃ r, SpellsResponse body r
    · obtain ⟨r, spelled⟩ := spelled
      have only : ∀ b, (∃ r, SpellsResponse body r ∧ r.success = b) ↔ r.success = b := by
        intro b
        constructor
        · rintro ⟨r', spelled', rfl⟩
          rw [spellsResponse_unique spelled spelled']
        · exact fun same => ⟨r, spelled, same⟩
      have some : ¬ ∀ r, ¬ SpellsResponse body r := fun none => none r spelled
      -- Of the four codes the response leads to the one that its success asks for.
      rw [reportLock_of_response fine spelled, Report.ofResponse]
      constructor
      all_goals simp only [fine, only, some, true_and, and_false, not_true_eq_false]
      all_goals cases r.success <;> decide
    · have none : ∀ r, ¬ SpellsResponse body r := not_exists.1 spelled
      rw [exit_of_nonsense fine none]
      constructor <;> simp [fine, none]
  · have exit : (reportLock url status body).exit = 2 := by
      rw [reportLock_of_refusal fine]
      exact exitCode_rejection status body
    rw [exit]
    constructor <;> simp [fine]

/-! ## The client and any answer -/

/-- A command that reaches something takes the answer for what it makes of it. -/
theorem run_canned {arguments : List String} {environment server : Option String}
    {op : Operation} {args : LockArgs} {address : Address}
    (parsed : parseArguments arguments = .ok (.run server (.act op args)))
    (usable : usableAddress (endpoint ((server <|> environment).getD defaultServer)
      (Http.operationPath op)) = .ok address) (issuedAt : UInt64) (bytes : List UInt8) :
    (run (.canned status bytes) arguments environment issuedAt).1
      = reportLock (endpoint ((server <|> environment).getD defaultServer) (Http.operationPath op))
        status (Text.lossy bytes) := by
  simp only [run, parsed, Command.carryOut, Command.sending, usable, Command.report]

/-- **Every answer is understood for what it is.** Take any command line that asks a server for an
operation, and any answer, of any status and with any bytes for a body.

The exit code is zero if the status is one of success and the body spells a response that tells of a
success, one if the response tells of none, three if the body spells no response, and two if the
status is another; and in no other case it is any of these. Any text at all can be the body.

An error of the service comes out with its status, its code and its text, whatever characters are in
it. Of an answer that refuses the client tells the error that its body spells, be it written as an
object or as an array, and of any other body the body itself without the blanks around it. -/
theorem every_answer_is_understood {arguments : List String} {environment server : Option String}
    {op : Operation} {args : LockArgs} {address : Address}
    (parsed : parseArguments arguments = .ok (.run server (.act op args)))
    (usable : usableAddress (endpoint ((server <|> environment).getD defaultServer)
      (Http.operationPath op)) = .ok address) (issuedAt : UInt64) :
    let report (status : Nat) (bytes : List UInt8) :=
      (run (.canned status bytes) arguments environment issuedAt).1
    (∀ body, Text.lossy (Text.encode body) = body)
      ∧ (∀ status bytes, Classifies (report status bytes).exit status (Text.lossy bytes))
      ∧ (∀ e : Http.ApiError,
          let a := Http.errorAnswer e
          let told := ClientError.rejected e.status (e.code ++ ": " ++ e.text)
          rejection a.status a.content.toList = told
            ∧ report a.status (Text.encode a.content.toList) = .ofError told)
      ∧ ∀ status bytes, ¬ Succeeds status →
          (∀ e, SpellsError (Text.lossy bytes) e →
            report status bytes = .ofError (.rejected status (e.code ++ ": " ++ e.message)))
          ∧ ((∀ e, ¬ SpellsError (Text.lossy bytes) e) → ∃ core, Trims (Text.lossy bytes) core
            ∧ report status bytes = .ofError (.rejected status (String.ofList core))) := by
  intro report
  have asked : ∀ status bytes, report status bytes = reportLock _ status (Text.lossy bytes) :=
    fun status bytes => run_canned parsed usable issuedAt bytes
  refine ⟨Text.lossy_encode, fun status bytes => ?_, fun e => ?_, fun status bytes refused => ?_⟩
  · rw [asked]
    exact classifies_reportLock _ status _
  · have refuses := Http.refuses_errorAnswer e
    -- No error that the service tells has a status of success.
    have failure : ¬ Succeeds (Http.errorAnswer e).status := by
      rw [refuses.1]
      cases e <;> simp [Succeeds, Http.ApiError.status]
    have told : rejection (Http.errorAnswer e).status (Http.errorAnswer e).content.toList
        = .rejected e.status (e.code ++ ": " ++ e.text) :=
      rejection_of_spells ((decodeText_errorBodyForm_iff _ _).1 refuses.2)
    refine ⟨told, ?_⟩
    rw [asked, Text.lossy_encode, reportLock_of_refusal failure, told]
  -- The body either spells an error or does not, whichever way it is encoded.
  · rw [asked, reportLock_of_refusal refused]
    refine ⟨fun e spelled => ?_, fun none => ⟨_, trims_trimChars _, ?_⟩⟩
    · rw [rejection_of_spells spelled]
    · rw [rejection_of_not_spells none]

/-- The text of an error may have quotes, line breaks and any other characters in it. -/
theorem quoted_error_is_told :
    (run (.canned 503 (Text.encode
        (Http.errorAnswer (.serviceUnavailable "no \"lock\"\nfor Zoë")).content.toList))
      ["try-lock", "orders", "--server", "http://[::1]:3000"] none 0).1
      = .ofError (.rejected 503 "SERVICE_UNAVAILABLE: no \"lock\"\nfor Zoë") :=
  ((every_answer_is_understood Errand.orders.parsed Errand.orders.usable 0).2.2.1
    (.serviceUnavailable "no \"lock\"\nfor Zoë")).2

/-- **An array is taken for an error** too, so it is not true that a body without such an object is
told itself. -/
theorem array_is_taken_for_an_error :
    ¬ ∀ (status : Nat) (body : List Char), ¬ Succeeds status →
      (∀ ms, ¬ SpellsText body (.object ms)) →
      rejection status body = .rejected status (String.ofList (Text.trimChars body)) := by
  intro always
  have spelled : SpellsText "[[\"X\",\"y\"]]".toList
      (.array [.array [.string (some "X"), .string (some "y")]]) := by decide +kernel
  -- A text spells one tree, and this one is no object.
  have itself := always 400 "[[\"X\",\"y\"]]".toList (by rw [Succeeds]; decide) fun ms object => by
    cases spelled.unique object
  have other : rejection 400 "[[\"X\",\"y\"]]".toList = .rejected 400 "X: y" := by decide +kernel
  rw [other] at itself
  exact absurd itself (by decide +kernel)

end Client

end KeyedLocks
