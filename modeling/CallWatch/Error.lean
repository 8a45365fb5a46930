import CallWatch.Record

/-!
Error envelopes, the one form in which every failure reaches a caller.

An envelope tells how the failure came about (`kind`), whether trying again may help
(`retry`), a stable code, a message, and named details in ascending order of their names.
-/

namespace CallWatch

inductive ErrorKind where
  | expected
  | invariant
  | unexpected
  deriving DecidableEq

inductive Retry where
  | retriable
  | nonRetriable
  deriving DecidableEq

structure ErrorCode where
  space : String
  name : String
  deriving DecidableEq

def ErrorKind.text : ErrorKind → String
  | .expected => "expected"
  | .invariant => "invariant"
  | .unexpected => "unexpected"

def Retry.text : Retry → String
  | .retriable => "retriable"
  | .nonRetriable => "non-retriable"

namespace ErrorCode

def text (c : ErrorCode) : String := c.space ++ ":" ++ c.name

def invalidInput : ErrorCode := ⟨"core", "invalid_input"⟩
def unsupported : ErrorCode := ⟨"core", "unsupported"⟩
def notFound : ErrorCode := ⟨"core", "not_found"⟩
def permissionDenied : ErrorCode := ⟨"core", "permission_denied"⟩
def io : ErrorCode := ⟨"core", "io"⟩
def internal : ErrorCode := ⟨"core", "internal"⟩

end ErrorCode

/-! ### Details -/

/-- Named details, the names in ascending order. -/
structure Details where
  entries : List (String × String)
  ascending : entries.Pairwise fun a b => a.1 < b.1
  deriving DecidableEq

namespace Details

def empty : Details := ⟨[], .nil⟩

def insertSorted (k v : String) : List (String × String) → List (String × String)
  | [] => [(k, v)]
  | (k', v') :: rest =>
    if k < k' then (k, v) :: (k', v') :: rest
    else if k' < k then (k', v') :: insertSorted k v rest
    else (k, v) :: rest

theorem lt_of_mem_insertSorted {k v b : String} {es : List (String × String)}
    (hk : b < k) (h : ∀ e ∈ es, b < e.1) : ∀ e ∈ insertSorted k v es, b < e.1 := by
  induction es with
  | nil => simpa [insertSorted] using hk
  | cons e rest ih =>
    obtain ⟨k', v'⟩ := e
    have hr : ∀ e ∈ rest, b < e.1 := fun e he => h e (List.mem_cons_of_mem _ he)
    have hh : b < k' := h (k', v') (by simp)
    unfold insertSorted
    split
    · intro e he
      rcases List.mem_cons.1 he with rfl | he
      · exact hk
      · exact h e he
    · split
      · intro e he
        rcases List.mem_cons.1 he with rfl | he
        · exact hh
        · exact ih hr e he
      · intro e he
        rcases List.mem_cons.1 he with rfl | he
        · exact hk
        · exact hr e he

theorem pairwise_insertSorted (k v : String) {es : List (String × String)}
    (h : es.Pairwise fun a b => a.1 < b.1) :
    (insertSorted k v es).Pairwise fun a b => a.1 < b.1 := by
  induction es with
  | nil => simp [insertSorted]
  | cons e rest ih =>
    obtain ⟨k', v'⟩ := e
    obtain ⟨h1, h2⟩ := List.pairwise_cons.1 h
    unfold insertSorted
    split
    next hlt =>
      refine List.pairwise_cons.2 ⟨fun e he => ?_, h⟩
      rcases List.mem_cons.1 he with rfl | he
      · exact hlt
      · exact String.lt_trans hlt (h1 e he)
    next hge =>
      split
      next hlt => exact List.pairwise_cons.2 ⟨lt_of_mem_insertSorted hlt h1, ih h2⟩
      next hle =>
        have he : k' = k := String.le_antisymm (String.not_lt.1 hge) (String.not_lt.1 hle)
        subst he
        exact List.pairwise_cons.2 ⟨h1, h2⟩

/-- A detail that is already there takes the new value. -/
def insert (d : Details) (k v : String) : Details :=
  ⟨insertSorted k v d.entries, pairwise_insertSorted k v d.ascending⟩

def ofPairs (pairs : List (String × String)) : Details :=
  pairs.foldl (fun d p => d.insert p.1 p.2) empty

def isEmpty (d : Details) : Bool := d.entries.isEmpty

def get? (d : Details) (k : String) : Option String := Record.get? d.entries k

end Details

/-! ### Envelopes -/

structure Envelope where
  kind : ErrorKind
  retry : Retry
  code : ErrorCode
  message : String
  details : Details
  deriving DecidableEq

namespace Envelope

def expected (code : ErrorCode) (message : String) : Envelope :=
  ⟨.expected, .nonRetriable, code, message, .empty⟩

def invariant (code : ErrorCode) (message : String) : Envelope :=
  ⟨.invariant, .nonRetriable, code, message, .empty⟩

def unexpected (code : ErrorCode) (message : String) (retry : Retry) : Envelope :=
  ⟨.unexpected, retry, code, message, .empty⟩

/-- The envelope with one more detail. -/
def noting (e : Envelope) (k v : String) : Envelope := { e with details := e.details.insert k v }

def unsupported (operation : String) : Envelope :=
  (expected .unsupported (operation ++ " not supported")).noting "operation" operation

def isUnsupported (e : Envelope) : Bool := e.code = .unsupported

def isExpected (e : Envelope) : Bool := e.kind = .expected

def isRetriable (e : Envelope) : Bool := e.retry = .retriable

/-- One line with the kind, the class, the code and the message. -/
def text (e : Envelope) : String :=
  e.kind.text ++ " " ++ e.retry.text ++ " " ++ e.code.text ++ ": " ++ e.message

end Envelope

/-! ### Failures of the system -/

inductive IoKind where
  | notFound
  | permissionDenied
  | wouldBlock
  | timedOut
  | interrupted
  | other
  deriving DecidableEq

/-- Only a failure that passes by itself is worth another try. -/
def IoKind.retry : IoKind → Retry
  | .wouldBlock | .timedOut | .interrupted => .retriable
  | _ => .nonRetriable

def IoKind.code : IoKind → ErrorCode
  | .notFound => .notFound
  | .permissionDenied => .permissionDenied
  | _ => .io

def Envelope.ofIo (k : IoKind) (message : String) : Envelope := .unexpected k.code message k.retry

end CallWatch
