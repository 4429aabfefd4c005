namespace Pseudocode.Text

inductive Utf8Reason where
  | badStart
  | badContinuation
  | cutShort
deriving DecidableEq

/-- The first bytes that are no text: from `start` on, `count` bytes, of which `lead` is the
first. -/
structure Utf8Fault where
  start : Nat
  count : Nat
  lead : UInt8
  reason : Utf8Reason

inductive Utf8Step where
  | char (c : Char) (width : Nat)
  | bad (count : Nat) (reason : Utf8Reason)

def continues (b : UInt8) : Bool := 0x80 ≤ b && b < 0xC0

def payload (b : UInt8) : Nat := b.toNat % 0x40

/-- Whether the second byte fits the lead byte of a longer character: neither an overlong form,
nor a surrogate, nor a code point beyond the last. -/
def fitsLead (lead second : UInt8) : Bool :=
  continues second &&
    !(lead == 0xE0 && second < 0xA0) && !(lead == 0xED && 0xA0 ≤ second) &&
    !(lead == 0xF0 && second < 0x90) && !(lead == 0xF4 && 0x90 ≤ second)

def readAfterLead (lead : UInt8) (more : List UInt8) : Utf8Step :=
  if lead < 0x80 then .char (Char.ofNat lead.toNat) 1
  else if lead < 0xC2 || 0xF5 ≤ lead then .bad 1 .badStart
  else
    match more with
    | [] => .bad 1 .cutShort
    | b :: more =>
        if !fitsLead lead b then .bad 1 .badContinuation
        else if lead < 0xE0 then
          .char (Char.ofNat (lead.toNat % 0x20 * 0x40 + payload b)) 2
        else
          match more with
          | [] => .bad 2 .cutShort
          | c :: more =>
              if !continues c then .bad 2 .badContinuation
              else if lead < 0xF0 then
                .char (Char.ofNat ((lead.toNat % 0x10 * 0x40 + payload b) * 0x40 + payload c)) 3
              else
                match more with
                | [] => .bad 3 .cutShort
                | d :: _ =>
                    if !continues d then .bad 3 .badContinuation
                    else
                      .char (Char.ofNat
                        (((lead.toNat % 0x08 * 0x40 + payload b) * 0x40 + payload c) * 0x40 +
                          payload d)) 4

/-- The text of the bytes from a place on, after `skip` bytes that were read already. -/
def decodeFrom (start skip : Nat) : List UInt8 → Except Utf8Fault (List Char)
  | [] => .ok []
  | b :: more =>
      match skip with
      | skip + 1 => decodeFrom (start + 1) skip more
      | 0 =>
          match readAfterLead b more with
          | .char c width => (decodeFrom (start + 1) (width - 1) more).map (c :: ·)
          | .bad count reason => .error ⟨start, count, b, reason⟩

def decodeUtf8 (bytes : List UInt8) : Except Utf8Fault (List Char) := decodeFrom 0 0 bytes

end Pseudocode.Text
