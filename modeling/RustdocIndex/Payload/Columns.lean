import RustdocIndex.Payload.Field

/-! The layout with one column for each field of the items: kinds `t`, names `n`, module paths `q`,
descriptions `d` and parents `i`. The newest generation alone has it. -/
namespace RustdocIndex.Payload

variable {α : Type} [Document α]

/-- The kind of a letter, of which the first stands for zero. -/
def letterKind (c : CodePoint) : Except ItemProblem ItemKind :=
  if 'A'.toNat ≤ c.val ∧ c.val ≤ 'Z'.toNat then
    (ItemKind.ofInt (c.val - 'A'.toNat)).mapError .invalidCode
  else .error (.invalidLetter c)

/-- The column of kinds: a text of letters, or a list of codes. -/
def kindColumn (data : α) : Except CrateError (List ItemKind) := do
  match Document.shape (← field .v3 data "t") with
  | .text t => t.zipIdx.mapM fun (c, position) => (letterKind c).mapError (.item .v3 position)
  | .array xs => xs.zipIdx.mapM fun (x, position) =>
    (ItemKind.ofCode x).mapError fun p => .item .v3 position (.invalidCode p)
  | x => wrongType .v3 "t" x

/-- A column has one entry for each item. -/
def checkLength {β : Type} (key : String) (items : Nat) (column : List β) :
    Except CrateError Unit :=
  if column.length = items then .ok () else .error ⟨.v3, .columnLength key column.length items⟩

def nameColumn (xs : List α) : Except CrateError (List Text) :=
  xs.zipIdx.mapM fun (x, position) => (itemName x).mapError (.item .v3 position)

def textOf? (x : α) : Option Text :=
  match Document.shape x with
  | .text t => some t
  | _ => none

/-- A pair of a position and a module path. -/
def pathPair (x : α) : Except CrateError (Int × Text) :=
  match Document.shape x with
  | .array [position, path] =>
    match Document.shape position, Document.shape path with
    | .int n, .text t => .ok (n, t)
    | _, _ => .error ⟨.v3, .invalidPathEntry (Document.picture x)⟩
  | _ => .error ⟨.v3, .invalidPathEntry (Document.picture x)⟩

/-- Puts each pair in its place; of two in one place, the later counts. -/
def spread (items : Nat) (column : List (Option Text)) :
    List α → Except CrateError (List (Option Text))
  | [] => .ok column
  | x :: xs => do
    let (n, path) ← pathPair x
    if 0 ≤ n ∧ n < items then spread items (column.set n.toNat (some path)) xs
    else .error ⟨.v3, .pathEntryOutOfRange n items⟩

/-- The column of module paths: one text for each item, or pairs for some of the items. -/
def pathColumn (items : Nat) (xs : List α) : Except CrateError (List (Option Text)) :=
  match xs.mapM textOf? with
  | some paths => do
    checkLength "q" items paths
    pure (paths.map some)
  | none => spread items (List.replicate items none) xs

/-- A description, which may be null. -/
def descriptionEntry? (x : α) : Option (Option Text) :=
  match Document.shape x with
  | .null => some none
  | .text t => some (some t)
  | _ => none

/-- The column of descriptions, which may be left out. -/
def descriptionColumn (items : Nat) (column : Option α) :
    Except CrateError (List (Option Text)) :=
  match column.map Document.shape with
  | none | some .null => .ok (List.replicate items none)
  | some (.array xs) =>
    match xs.mapM descriptionEntry? with
    | some found => do
      checkLength "d" items found
      pure found
    | none => .error ⟨.v3, .descriptionsNotTexts⟩
  | some _ => .error ⟨.v3, .descriptionsNotTexts⟩

/-- Parents are counted from one, and zero stands for none. -/
def parentEntry (x : α) : Except ItemProblem (Option Int) :=
  match Document.shape x with
  | .int n =>
    if n < 0 then .error (.invalidParent (Document.picture x))
    else .ok (if n = 0 then none else some (n - 1))
  | _ => .error (.invalidParent (Document.picture x))

def parentColumn (items : Nat) (xs : List α) : Except CrateError (List (Option Int)) := do
  let parents ← xs.zipIdx.mapM fun (x, position) => (parentEntry x).mapError (.item .v3 position)
  checkLength "i" items parents
  pure parents

/-- The items of columns of one length. -/
def zipColumns : List ItemKind → List Text → List (Option Text) → List (Option Text) →
    List (Option Int) → List Entry
  | kind :: kinds, name :: names, path :: paths, desc :: descs, parent :: parents =>
    ⟨kind, name, path, desc, parent⟩ :: zipColumns kinds names paths descs parents
  | _, _, _, _, _ => []

/-- A crate in columns. -/
def columnDraft (name : Text) (data : α) : Except CrateError Draft := do
  let kinds ← kindColumn data
  let names ← listField .v3 data "n"
  let count := names.length
  checkLength "t" count kinds
  let names ← nameColumn names
  let given ← pathColumn count (← listField .v3 data "q")
  let descs ← descriptionColumn count (field? data "d")
  let parents ← parentColumn count (← listField .v3 data "i")
  let paths ← pathEntries .v3 (← listField .v3 data "p")
  let doc ← docField .v3 data
  let rows ← rowsOf .v3 (zipColumns kinds names given descs parents)
  pure ⟨name, doc, rows, paths⟩

end RustdocIndex.Payload
