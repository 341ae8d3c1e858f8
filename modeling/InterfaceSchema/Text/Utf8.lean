import InterfaceSchema.Text.CodePoints

/-!
# Code points as bytes

A character is stored as one to four bytes. The codes from one code point to another are stored as
the byte sequences that a few sequences of byte ranges span: `byteRanges` gives them in ascending
order, each range by its first and last byte.
-/

namespace InterfaceSchema.Text

/-- The bytes of a code point. -/
def utf8Bytes (code : Nat) : List Nat :=
  if code < 0x80 then [code]
  else if code < 0x800 then [0xc0 + code / 0x40, 0x80 + code % 0x40]
  else if code < 0x10000 then
    [0xe0 + code / 0x1000, 0x80 + code / 0x40 % 0x40, 0x80 + code % 0x40]
  else
    [0xf0 + code / 0x40000, 0x80 + code / 0x1000 % 0x40, 0x80 + code / 0x40 % 0x40,
      0x80 + code % 0x40]

/-- The code points by the number of their bytes, without those that stand for no character. -/
def utf8Planes : List (Nat × Nat) :=
  [(0, 0x7f), (0x80, 0x7ff), (0x800, 0xd7ff), (0xe000, 0xffff), (0x10000, lastCode)]

/-- Cuts a block where its whole pages of the given size begin and where they end, unless it lies in
    one page. -/
def cutPages (page : Nat) (r : Nat × Nat) : List (Nat × Nat) :=
  let first := (r.1 + page - 1) / page * page
  let last := (r.2 + 1) / page * page
  if r.1 / page = r.2 / page then [r]
  else
    (if r.1 < first then [(r.1, first - 1)] else []) ++
    (if first < last then [(first, last - 1)] else []) ++
    (if last ≤ r.2 then [(last, r.2)] else [])

/-- Cuts a block of code points with equally many bytes into parts whose byte sequences are all that
    lie between the first and the last byte by byte. -/
def cutBytes (r : Nat × Nat) : List (Nat × Nat) :=
  if r.2 < 0x80 then [r]
  else ((cutPages 0x40 r).flatMap (cutPages 0x1000)).flatMap (cutPages 0x40000)

/-- The sequences of byte ranges that the code points of a block are stored as. -/
def byteRanges (r : Nat × Nat) : List (List (Nat × Nat)) :=
  let planes := (utf8Planes.map fun p => (max p.1 r.1, min p.2 r.2)).filter fun p => p.1 ≤ p.2
  (planes.flatMap cutBytes).map fun p => (utf8Bytes p.1).zip (utf8Bytes p.2)

end InterfaceSchema.Text
