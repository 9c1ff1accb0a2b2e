import RoutingPolicy.Text.ByteSlice
import RoutingPolicy.Text.Digit

/-!
# Site names

A site is named by its tier, its country and a name, as in `T2_CH_CERN`: the letter T and a decimal
digit of any script, two capital letters, and a capital letter with at least one letter or
underscore behind it, joined by underscores. Nothing may stand before or behind. A `SiteName` is a
text with that form, and `ofString?` takes every such text and no other.
-/

set_option autoImplicit false

namespace RoutingPolicy

def isCapital (c : Char) : Bool := 'A' ≤ c && c ≤ 'Z'

def isNameChar (c : Char) : Bool := isCapital c || ('a' ≤ c && c ≤ 'z') || c == '_'

theorem isNameChar_of_isCapital {c : Char} (capital : isCapital c = true) :
    isNameChar c = true := by
  simp [isNameChar, capital]

def hasSiteForm : List Char → Bool
  | 'T' :: tier :: '_' :: country :: country' :: '_' :: first :: rest =>
    Text.isDecimalDigit tier && isCapital country && isCapital country' && isCapital first &&
      !rest.isEmpty && rest.all isNameChar
  | _ => false

structure SiteName where
  text : String
  form : hasSiteForm text.toList = true
  deriving DecidableEq

inductive SiteError where
  | empty
  /-- The text does not have the form of a site name. -/
  | invalidFormat (text : String)
  deriving DecidableEq

def SiteError.message : SiteError → String
  | empty => "site cannot be empty"
  | invalidFormat text => "invalid site '" ++ text ++ "': expected T<tier>_<country>_<name>"

namespace SiteName

def ofString? (s : String) : Except SiteError SiteName :=
  if s = "" then .error .empty
  else if h : hasSiteForm s.toList = true then .ok ⟨s, h⟩
  else .error (.invalidFormat s)

def isValid (s : String) : Bool := hasSiteForm s.toList

/-- The tier, which lies in the first two bytes. -/
def tier? (site : SiteName) : Option String := Text.takeBytes? 2 site.text

def country? (site : SiteName) : Option String := Text.sliceBytes? 3 5 site.text

def name? (site : SiteName) : Option String := Text.dropBytes? 6 site.text

theorem ofString?_eq_ok_iff {s : String} {site : SiteName} :
    ofString? s = .ok site ↔ site.text = s := by
  unfold ofString?
  split
  · next h =>
    subst h
    constructor
    · intro h; cases h
    · intro h
      have := site.form
      rw [h] at this
      simp [hasSiteForm] at this
  · split
    · next hform =>
      constructor
      · rintro ⟨⟩; rfl
      · rintro rfl; rfl
    · next hform =>
      constructor
      · intro h; cases h
      · rintro rfl; exact absurd site.form hform

structure IsSpelled (site : SiteName) (digit c c' first : Char) (rest : List Char) : Prop where
  characters : site.text.toList = 'T' :: digit :: '_' :: c :: c' :: '_' :: first :: rest
  digit : Text.isDecimalDigit digit = true
  country : isCapital c = true
  country' : isCapital c' = true
  first : isCapital first = true
  rest_ne_nil : rest ≠ []
  rest : ∀ d ∈ rest, isNameChar d = true

theorem exists_isSpelled (site : SiteName) :
    ∃ digit c c' first rest, site.IsSpelled digit c c' first rest := by
  have form := site.form
  unfold hasSiteForm at form
  split at form
  · next digit c c' first rest characters =>
    simp only [Bool.and_eq_true, List.all_eq_true, Bool.not_eq_true', List.isEmpty_eq_false_iff]
      at form
    obtain ⟨⟨⟨⟨⟨decimal, country⟩, country'⟩, capital⟩, filled⟩, letters⟩ := form
    exact ⟨digit, c, c', first, rest, characters, decimal, country, country', capital, filled,
      letters⟩
  · cases form

/-- Only the digit of the tier is no letter and no underscore. -/
theorem IsSpelled.eq_digit_or_isNameChar {site : SiteName} {digit c c' first d : Char}
    {rest : List Char} (spelled : site.IsSpelled digit c c' first rest)
    (member : d ∈ site.text.toList) : d = digit ∨ isNameChar d = true := by
  rw [spelled.characters] at member
  simp only [List.mem_cons] at member
  rcases member with rfl | rfl | rfl | rfl | rfl | rfl | rfl | member
  · exact .inr rfl
  · exact .inl rfl
  · exact .inr rfl
  · exact .inr (isNameChar_of_isCapital spelled.country)
  · exact .inr (isNameChar_of_isCapital spelled.country')
  · exact .inr rfl
  · exact .inr (isNameChar_of_isCapital spelled.first)
  · exact .inr (spelled.rest d member)

theorem isValid_iff {s : String} : isValid s = true ↔ ∃ site : SiteName, site.text = s :=
  ⟨fun h => ⟨⟨s, h⟩, rfl⟩, fun ⟨site, h⟩ => h ▸ site.form⟩

end SiteName

end RoutingPolicy
