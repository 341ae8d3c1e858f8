/-!
# Styled text

A listing is made of spans. A styled span has a style and a width that it is padded to; in plain
output only the padding remains of both. The padding counts characters and belongs to the styled
text.

* `padRight` and `padLeft` fill up with spaces (`length_padRight`, `length_padLeft`);
* `Span.render` writes a span with or without colours, `renderAll` a list of spans.
-/

namespace InterfaceSchema.Text

/-! ## 1. Padding -/

/-- Spaces after the text, up to the width. A longer text stays as it is. -/
def padRight (width : Nat) (text : List Char) : List Char :=
  text ++ List.replicate (width - text.length) ' '

/-- Spaces before the text, up to the width. A longer text stays as it is. -/
def padLeft (width : Nat) (text : List Char) : List Char :=
  List.replicate (width - text.length) ' ' ++ text

theorem length_padRight (width : Nat) (text : List Char) :
    (padRight width text).length = max width text.length := by
  simp [padRight]; omega

@[simp] theorem padRight_zero (text : List Char) : padRight 0 text = text := by
  simp [padRight]

theorem length_padLeft (width : Nat) (text : List Char) :
    (padLeft width text).length = max width text.length := by
  simp [padLeft]; omega

/-! ## 2. Styles -/

/-- How a text stands out. -/
inductive Style where
  | bold
  | dimmed
  | red
  | yellow
  | cyan
  | boldGreen
  deriving DecidableEq

/-- The numbers that switch the style on. -/
def Style.codes : Style → String
  | bold => "1"
  | dimmed => "2"
  | red => "31"
  | yellow => "33"
  | cyan => "36"
  | boldGreen => "1;32"

/-- The sequence that switches the style on. -/
def Style.opening (style : Style) : List Char :=
  '\x1b' :: '[' :: style.codes.toList ++ ['m']

/-- The sequence that switches every style off. -/
def closing : List Char := ['\x1b', '[', '0', 'm']

/-- The text with the style switched on again after every sequence in it that switches it off. -/
def reopen (style : Style) : List Char → List Char
  | '\x1b' :: '[' :: '0' :: 'm' :: rest => closing ++ style.opening ++ reopen style rest
  | c :: rest => c :: reopen style rest
  | [] => []

/-- A text without an escape character is not changed. -/
theorem reopen_eq_self (style : Style) : ∀ text : List Char,
    '\x1b' ∉ text → reopen style text = text
  | [], _ => by simp [reopen]
  | c :: rest, h => by
    simp only [List.mem_cons, not_or] at h
    have hc : c ≠ '\x1b' := fun e => h.1 e.symm
    rw [reopen, reopen_eq_self style rest h.2]
    rintro _ rfl
    exact absurd rfl hc

/-! ## 3. Spans -/

/-- A piece of a listing. -/
inductive Span where
  | plain (text : List Char)
  | styled (style : Style) (width : Nat) (text : List Char)

/-- The characters of a span. An empty text is styled too. -/
def Span.render (colours : Bool) : Span → List Char
  | plain text => text
  | styled style width text =>
    if colours then style.opening ++ padRight width (reopen style text) ++ closing
    else padRight width text

/-- The text of the spans, one after the other. -/
def renderAll (colours : Bool) (spans : List Span) : String :=
  String.ofList (spans.flatMap (·.render colours))

end InterfaceSchema.Text
