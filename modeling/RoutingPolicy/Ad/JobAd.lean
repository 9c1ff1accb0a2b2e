import RoutingPolicy.Ad.Text

/-!
# Job ads

A job ad binds expressions to attribute names. Names that differ only in the case of ASCII letters
name the same attribute; the spelling of the latest write is kept for display. Bindings are listed
in the order of their names in small letters.
-/

set_option autoImplicit false

namespace RoutingPolicy

structure Binding where
  /-- The name as last written. -/
  name : String
  expr : Expr

structure JobAd where
  /-- The bindings under their names in small letters. -/
  entries : SortedMap String Binding
  keyed : ∀ e ∈ entries.entries, e.1 = Text.foldCase e.2.name

inductive AdError where
  /-- The document is of another kind than an object. -/
  | notAnObject (kind : String)
  | emptyAttributeName
  deriving DecidableEq

def AdError.message : AdError → String
  | notAnObject kind => "job ad must be a JSON object, got " ++ kind
  | emptyAttributeName => "job ad contains an empty attribute name"

def Json.kind : Json → String
  | null => "null"
  | bool _ => "boolean"
  | number _ => "number"
  | string _ => "string"
  | array _ => "array"
  | object _ => "object"

namespace JobAd

def empty : JobAd := ⟨.empty, fun e h => by simp [SortedMap.empty] at h⟩

instance : Inhabited JobAd := ⟨empty⟩

theorem keyed_insert (ad : JobAd) (name : String) (expr : Expr) :
    ∀ e ∈ (ad.entries.insert (Text.foldCase name) ⟨name, expr⟩).entries,
      e.1 = Text.foldCase e.2.name := by
  intro e he
  have h := SortedMap.get?_eq_some_iff.2 he
  rw [SortedMap.get?_insert] at h
  split at h
  · next hkey => rw [← Option.some.inj h]; exact hkey
  · exact ad.keyed e (SortedMap.get?_eq_some_iff.1 h)

theorem keyed_erase (ad : JobAd) (name : String) :
    ∀ e ∈ (ad.entries.erase (Text.foldCase name)).entries, e.1 = Text.foldCase e.2.name := by
  intro e he
  have h := SortedMap.get?_eq_some_iff.2 he
  rw [SortedMap.get?_erase] at h
  split at h
  · cases h
  · exact ad.keyed e (SortedMap.get?_eq_some_iff.1 h)

def bind (ad : JobAd) (name : String) (expr : Expr) : JobAd :=
  ⟨ad.entries.insert (Text.foldCase name) ⟨name, expr⟩, ad.keyed_insert name expr⟩

def assign (ad : JobAd) (name : String) (v : Value) : JobAd := ad.bind name (.lit v)

def erase (ad : JobAd) (name : String) : JobAd :=
  ⟨ad.entries.erase (Text.foldCase name), ad.keyed_erase name⟩

def get? (ad : JobAd) (name : String) : Option Expr :=
  (ad.entries.get? (Text.foldCase name)).map (·.expr)

def contains (ad : JobAd) (name : String) : Bool := ad.entries.contains (Text.foldCase name)

/-- The bindings, in the order of their names in small letters. -/
def toList (ad : JobAd) : List Binding := ad.entries.values

def size (ad : JobAd) : Nat := ad.entries.size

def isEmpty (ad : JobAd) : Bool := ad.entries.isEmpty

theorem get?_bind (ad : JobAd) (name name' : String) (expr : Expr) :
    (ad.bind name expr).get? name' =
      if Text.foldCase name' = Text.foldCase name then some expr else ad.get? name' := by
  simp only [get?, bind, SortedMap.get?_insert]
  split <;> rfl

theorem get?_erase (ad : JobAd) (name name' : String) :
    (ad.erase name).get? name' =
      if Text.foldCase name' = Text.foldCase name then none else ad.get? name' := by
  simp only [get?, erase, SortedMap.get?_erase]
  split <;> rfl

/-! ### JSON -/

/-- Binds the members of an object, in order, to the values that they stand for. -/
def ofMembers : JobAd → List (String × Json) → Except AdError JobAd
  | ad, [] => .ok ad
  | ad, (name, document) :: members =>
    if name = "" then .error .emptyAttributeName
    else ofMembers (ad.assign name (.ofJson document)) members

def ofJson : Json → Except AdError JobAd
  | .object members => ofMembers empty members
  | document => .error (.notAnObject document.kind)

/-- The document for a binding: that of its value if it is a literal, else the text of the
expression. -/
def Binding.toJson (b : Binding) : Json :=
  match b.expr.lit? with
  | some v => v.toJson
  | none => .string b.expr.render

def toJson (ad : JobAd) : Json :=
  .ofMembers (ad.toList.map fun b => (b.name, Binding.toJson b))

end JobAd

end RoutingPolicy
