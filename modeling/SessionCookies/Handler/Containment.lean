import SessionCookies.Handler.Basic

/-!
# Containment of faults

A fault of a handler becomes an answer that tells nothing but whether the session of the request was
lost. Faults that stand for an answer of the framework pass. What went wrong is written to the log
with the URL of the request; a request that has none gets no answer.
-/

namespace SessionCookies

/-- The body of an answer to a fault. -/
def faultBody (code text : String) : String :=
  "\x7b\"error\":\"Internal server error occurred\",\"error_code\":\"" ++ code ++
    "\",\"message\":\"" ++ text ++ "\"\x7d"

/-- The answer when the session of a request was lost. -/
def sessionLostResponse : Response :=
  .json (faultBody "session_state_lost" "The request session could not be finalised.") 500

/-- The answer to any other fault. -/
def unexpectedFaultResponse : Response :=
  .json (faultBody "internal_error" "An unexpected error occurred. Please try again later.") 500

/-- A handler that answers also when it fails. -/
def Handler.contained (inner : Handler) : Handler := fun r x =>
  match inner r x with
  | (.ok a, x) => (.ok a, x)
  | (.error fault, x) =>
    if fault.isHttp then (.error fault, x)
    else
      match r.url with
      | .error unreadable => (.error unreadable, x)
      | .ok url =>
        if fault.isSessionInvariant then
          (.ok sessionLostResponse, x.note .pipeline .critical
            ("Session invariant violated for " ++ url ++ ": " ++ fault.message))
        else
          (.ok unexpectedFaultResponse, x.note .pipeline .error
            ("Unexpected error for " ++ url ++ ": " ++ fault.message))

end SessionCookies
