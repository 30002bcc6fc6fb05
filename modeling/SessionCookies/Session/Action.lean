import SessionCookies.Session.Record

/-!
# Actions on a session

What a handler can do to the session of its request, one action at a time. An action gives an answer
or a fault, and leaves a session and a world; a fault does not keep later actions from being run.
-/

namespace SessionCookies

/-- One thing to do with a session. -/
inductive Action where
  | get (name : String) (default : Value)
  | insert (name : String) (v : Value)
  /-- Reads a list, the empty one if there is none, adds a value at its end and, if `reinsert` is
  set, puts the list back. -/
  | append (name : String) (v : Value) (reinsert : Bool)
  | remove (name : String)
  | clear
  | reset
  | destroy
  | regenerate
  | contains (name : String)
  | size
  | isTrue
  | takeCookieValue
  | expireIn (micros : Int)
  | setExpiry (t : Timestamp)
  | timeLeft
  | isExpired
  | isLive
  | record
  /-- Moves the clock. -/
  | advance (micros : Int)

/-- What an action answers. -/
inductive Answer where
  | nothing
  | flag (b : Bool)
  | count (n : Nat)
  | value (v : Json)
  | micros (n : Option Int)
  | text (s : Option String)

/-- What an action comes to. -/
structure Outcome where
  answer : Except Fault Answer
  session : Session
  world : World

namespace Action

/-- The list under a name with a value at its end. -/
def appended (s : Session) (name : String) (v : Value) : Except Fault (List Value) := do
  match ← s.get? name with
  | none => return [v]
  | some (.array items) => return Value.ofItems items ++ [v]
  | some _ => .error .notAList

/-- An action whose answer leaves everything as it is. -/
def asked (s : Session) (w : World) (answer : Except Fault Answer) : Outcome := ⟨answer, s, w⟩

/-- An action that changes the session alone and answers nothing. -/
def done (s : Session) (w : World) : Outcome := ⟨.ok .nothing, s, w⟩

/-- An action that changes the session unless it fails. -/
def tried (s : Session) (w : World) : Except Fault Session → Outcome
  | .ok s => done s w
  | .error fault => ⟨.error fault, s, w⟩

/-- Runs an action on a session. -/
def run (s : Session) (w : World) : Action → Outcome
  | .get name default =>
    asked s w do
      match ← s.get? name with
      | some v => return .value v
      | none => return .value (← default.toJson?)
  | .insert name v => tried s w (s.insert name v)
  | .append name v reinsert =>
    match appended s name v with
    | .error fault => asked s w (.error fault)
    | .ok items =>
      match (Value.list items).toJson? with
      | .error fault => asked s w (.error fault)
      | .ok v =>
        ⟨.ok (.value v), if reinsert then s.putText name v.toText else s, w⟩
  | .remove name =>
    let (removed, s) := s.remove name
    asked s w (removed.map fun v => .value (v.getD .null))
  | .clear => done s.clear w
  | .reset => done s.unchanged w
  | .destroy => done s.destroy w
  | .regenerate => done (s.regenerate w) w.afterDraw
  | .contains name => asked s w (.ok (.flag (s.contains name)))
  | .size => asked s w (.ok (.count s.size))
  | .isTrue => asked s w (.ok (.flag (s.size ≠ 0)))
  | .takeCookieValue => ⟨.ok (.text s.cookieValue), s.withoutCookieValue, w⟩
  | .expireIn micros => tried s w (s.expireIn w.now micros)
  | .setExpiry t => done (s.setExpiry t) w
  | .timeLeft => asked s w ((s.timeLeft w.now).map .micros)
  | .isExpired => asked s w ((s.isExpired w.now).map .flag)
  | .isLive => asked s w ((s.live? w.now).map fun live => .flag live.isSome)
  | .record => asked s w (.ok (.text (some s.record)))
  | .advance micros => ⟨.ok .nothing, s, { w with now := w.now + micros }⟩

end Action

end SessionCookies
