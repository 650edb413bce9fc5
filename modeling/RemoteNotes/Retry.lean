import RemoteNotes.Error
import RemoteNotes.Time.Duration

/-!
# Retries

Which failures are worth another attempt, how many attempts there are, and how long the
client may wait in between.
-/

namespace RemoteNotes

open Number (Double twoTo)
open Time (Duration)

/-- The method of a request. -/
inductive Method
  | get
  | head
  | post
  | put
  | patch
  | delete
  | options
  | other (name : String)
  deriving DecidableEq

namespace Method

def name : Method → String
  | .get => "GET"
  | .head => "HEAD"
  | .post => "POST"
  | .put => "PUT"
  | .patch => "PATCH"
  | .delete => "DELETE"
  | .options => "OPTIONS"
  | .other name => name

def known : List Method := [.get, .head, .post, .put, .patch, .delete, .options]

def ofName (name : String) : Method := (known.find? (·.name == name)).getD (.other name)

/-- Whether sending a request twice does the same as sending it once. -/
def isIdempotent : Method → Bool
  | .get | .head | .put | .delete | .options => true
  | .post | .patch | .other _ => false

end Method

/-- Whether a request may be sent again after a failure that may pass. -/
inductive RetryMode
  /-- Only where the method is idempotent. -/
  | ifIdempotent
  | always
  | never
  deriving DecidableEq

def RetryMode.allows : RetryMode → Method → Bool
  | .ifIdempotent, m => m.isIdempotent
  | .always, _ => true
  | .never, _ => false

structure RetryPolicy where
  /-- Attempts in all, the first one included. -/
  maxAttempts : Nat
  /-- The longest wait after the first attempt. -/
  base : Duration
  /-- By how much the longest wait grows with each attempt. -/
  multiplier : Double
  maxDelay : Duration
  deriving DecidableEq

namespace RetryPolicy

def maxExponent : Nat := twoTo 31 - 1

/-- The longest wait after an attempt. Attempts are counted from one. -/
def ceiling (p : RetryPolicy) (attempt : Nat) : Duration :=
  let scaled := p.base.toFloatSeconds.mul (p.multiplier.pow (min (attempt - 1) maxExponent))
  if !scaled.isFinite || p.maxDelay.toFloatSeconds.le scaled then p.maxDelay
  else match Duration.ofFloatSeconds scaled with
    | .ok delay => delay.min p.maxDelay
    | .error _ => p.maxDelay

/-- Whether a failed attempt is followed by another one. -/
def shouldRetry (p : RetryPolicy) (attempt : Nat) (error : Error) : Bool :=
  attempt < p.maxAttempts && error.isTransient

end RetryPolicy

end RemoteNotes
