import RustdocIndex.Literal.Scanner
import RustdocIndex.Literal.Store

/-! Literal programs: declarations of variables, assignments into their arrays and objects, and
calls, which have no effect. -/
namespace RustdocIndex.Literal

abbrev Variables := Fields String Value

/-- The variable or array element named at the front of the text, or a literal word. -/
def reference (vars : Variables) (store : Store) (s : List Char) :
    Except Stop (Value × List Char) := do
  let (name, t) ← scanName s
  match name with
  | "null" => pure (.null, t)
  | "true" => pure (.bool true, t)
  | "false" => pure (.bool false, t)
  | name =>
    match vars.get? name with
    | none => .error (.problem (.undeclaredReference name) s)
    | some x =>
      match skipSpace t with
      | '[' :: inside => do
        let (index, t) ← scanInteger inside
        let rest ← expect ']' t
        match store.elements? x with
        | none => .error (.problem (.notAnArray name) s)
        | some xs =>
          match elementAt? xs index with
          | some y => pure (y, rest)
          | none => .error (.problem (.indexOutOfRange index name xs.length) inside)
      | t => pure (x, t)

mutual

/-- The value at the front of the text, with `depth` more levels allowed. Each call takes one from
the budget. -/
def value (vars : Variables) (budget depth : Nat) (store : Store) (s : List Char) :
    Except Stop (Value × Store × List Char) :=
  match budget with
  | 0 => .error (.problem .outOfSteps s)
  | budget + 1 =>
    match skipSpace s with
    | [] => .error (.problem .unexpectedEnd [])
    | c :: t =>
      if c = '"' ∨ c = '\'' then do
        let (x, rest) ← scanString (c :: t) c [] t
        pure (.text x, store, rest)
      else if c = '[' then
        match depth with
        | 0 => .error (.problem .tooDeep t)
        | depth + 1 => elements vars budget depth store [] t
      else if c = '\x7b' then
        match depth with
        | 0 => .error (.problem .tooDeep t)
        | depth + 1 => members vars budget depth store [] t
      else if c = '-' ∨ c.isDigit then do
        let (n, rest) ← scanInteger (c :: t)
        pure (.int n, store, rest)
      else if isNameStart c then do
        let (x, rest) ← reference vars store (c :: t)
        pure (x, store, rest)
      else .error (.problem (.unexpectedCharacter c) (c :: t))

/-- The array from here to its closing bracket; the elements before are `seen` in reverse. -/
def elements (vars : Variables) (budget depth : Nat) (store : Store) (seen : List Value)
    (s : List Char) : Except Stop (Value × Store × List Char) :=
  match budget with
  | 0 => .error (.problem .outOfSteps s)
  | budget + 1 =>
    match skipSpace s with
    | ']' :: rest =>
      let (x, store) := store.alloc (.array seen.reverse)
      .ok (x, store, rest)
    | s => do
      let (x, store, t) ← value vars budget depth store s
      match skipSpace t with
      | ',' :: rest => elements vars budget depth store (x :: seen) rest
      | t => do
        let rest ← expect ']' t
        let (x, store) := store.alloc (.array (x :: seen).reverse)
        pure (x, store, rest)

/-- The object from here to its closing brace, after the members `seen`. -/
def members (vars : Variables) (budget depth : Nat) (store : Store) (seen : Fields Text Value)
    (s : List Char) : Except Stop (Value × Store × List Char) :=
  match budget with
  | 0 => .error (.problem .outOfSteps s)
  | budget + 1 =>
    match skipSpace s with
    | '\x7d' :: rest =>
      let (x, store) := store.alloc (.object seen)
      .ok (x, store, rest)
    | s => do
      let (key, t) ← scanKey s
      let t ← expect ':' t
      let (x, store, t) ← value vars budget depth store t
      match skipSpace t with
      | ',' :: rest => members vars budget depth store (seen.put key x) rest
      | t => do
        let rest ← expect '\x7d' t
        let (x, store) := store.alloc (.object (seen.put key x))
        pure (x, store, rest)

end

/-- A value that may use all of the depth. A character pays for the two calls that may come before
the next one is read. -/
def readValue (vars : Variables) (store : Store) (s : List Char) :
    Except Stop (Value × Store × List Char) :=
  value vars (2 * s.length + 2) maxDepth store s

/-- The variables so far, and the store with what they refer to. -/
structure State where
  bindings : Variables
  store : Store
  deriving DecidableEq

def State.empty : State := ⟨[], #[]⟩

/-- Declarations with commas between them. -/
def declarations (budget : Nat) (st : State) (s : List Char) : Except Stop (State × List Char) :=
  match budget with
  | 0 => .error (.problem .outOfSteps s)
  | budget + 1 => do
    let (name, t) ← scanName s
    let t ← expect '=' t
    let (x, store, t) ← readValue st.bindings st.store t
    let st := ⟨st.bindings.put name x, store⟩
    match skipSpace t with
    | ',' :: rest => declarations budget st rest
    | rest => pure (st, rest)

/-- The arguments of a call up to the closing parenthesis. Their values are dropped. -/
def arguments (budget : Nat) (st : State) (s : List Char) : Except Stop (List Char) :=
  match budget with
  | 0 => .error (.problem .outOfSteps s)
  | budget + 1 =>
    match skipSpace s with
    | ')' :: rest => .ok rest
    | s => do
      let (_, _, t) ← readValue st.bindings st.store s
      match skipSpace t with
      | ',' :: rest => arguments budget st rest
      | t => expect ')' t

/-- A call after the first name: names with points before them, then the arguments. -/
def call (budget : Nat) (st : State) (s : List Char) : Except Stop (List Char) :=
  match budget with
  | 0 => .error (.problem .outOfSteps s)
  | budget + 1 =>
    match skipSpace s with
    | '.' :: t => do
      let (_, t) ← scanName t
      call budget st t
    | t => do
      let t ← expect '(' t
      arguments (t.length + 1) st t

/-- An assignment to an element of `name` after the bracket; the statement begins at `start`. -/
def assignment (st : State) (name : String) (start s : List Char) :
    Except Stop (State × List Char) :=
  match st.bindings.get? name with
  | none => .error (.problem (.undeclaredTarget name) start)
  | some target => do
    let (key, store, t) ← readValue st.bindings st.store s
    let t ← expect ']' t
    let t ← expect '=' t
    let (x, store, rest) ← readValue st.bindings store t
    match store.assign? target key x with
    | some store => pure (⟨st.bindings, store⟩, rest)
    | none =>
      let shown := Node.picture ⟨store, key⟩
      if shown.isTooDeep then .error (.problem .targetTooDeep rest)
      else .error (.problem (.invalidTarget name shown) start)

/-- A statement, and the semicolon after it if there is one. -/
def statement (st : State) (s : List Char) : Except Stop (State × List Char) := do
  let (name, t) ← scanName s
  let (st, rest) ←
    if name = "var" then declarations (t.length + 1) st t
    else
      match skipSpace t with
      | '[' :: t => assignment st name s t
      | '(' :: _ | '.' :: _ => do
        let rest ← call (t.length + 1) st t
        pure (st, rest)
      | _ => .error (.problem (.unexpectedStatement name) s)
  match skipSpace rest with
  | ';' :: rest => pure (st, rest)
  | rest => pure (st, rest)

/-- The statements up to the end of the text. -/
def statements (budget : Nat) (st : State) (s : List Char) : Except Stop State :=
  match budget with
  | 0 => .error (.problem .outOfSteps s)
  | budget + 1 =>
    match skipSpace s with
    | [] => .ok st
    | ';' :: rest => statements budget st rest
    | s => do
      let (st, rest) ← statement st s
      statements budget st rest

/-- Runs a program from a state that earlier statements left. The program is of characters, so every
place in it is at some byte; halves of surrogate pairs come up in values only, from escapes. -/
def run (st : State) (s : List Char) : Except Stop State := statements (s.length + 1) st s

def evaluate (s : List Char) : Except Stop State := run .empty s

/-- The value of a variable. -/
def State.get? (st : State) (name : String) : Option Node :=
  (st.bindings.get? name).map (⟨st.store, ·⟩)

end RustdocIndex.Literal
