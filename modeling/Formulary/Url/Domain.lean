import Formulary.Text.CaseFold
import Formulary.Text.Split
import Formulary.Text.Combining
import Formulary.Text.Hidden
import Formulary.Url.Percent
import Formulary.Url.Punycode

/-!
# Domain names — host names of any script in ASCII

The name of a host is percent-decoded, mapped to lower case and cut at its dots. A label with other
characters than ASCII is written in Punycode behind the prefix `xn--`.

* `mapChar` — what a character of a name is mapped to.
* `asciiLabel?`, `asciiDomain?` — the ASCII form of a label and of a name.
-/

namespace Formulary.Url

/-- What a character of a name is mapped to: nothing for an invisible one, its lower-case form
otherwise; full-width forms are narrowed, and the dots of other scripts are dots. -/
def mapChar (c : Char) : List Char :=
  let n := c.toNat
  if n < 128 then [c.toLower]
  else if n == 0xAD || n == 0x34F || n == 0x200B || n == 0x2060 || n == 0x2064 || n == 0xFEFF ||
      (0xFE00 ≤ n && n ≤ 0xFE0F) then []
  else if n == 0x3002 || n == 0xFF0E || n == 0xFF61 then ['.']
  else if 0xFF01 ≤ n && n ≤ 0xFF5E then [(Char.ofNat (n - 0xFEE0)).toLower]
  else if n == 0xDF || n == 0x3C2 then [c]
  else Text.foldChar c

/-- What may not stand in the name of a host. -/
def isForbidden (c : Char) : Bool :=
  c.toNat ≤ 0x20 || c.toNat == 0x7F || "%#/:<>?@[\\]^|".contains c

/-- Whether characters beyond ASCII may form a label: none is invisible, and the first is not
combining. -/
def isPlainLabel (label : List Char) : Bool :=
  label.all (fun c => !isForbidden c && !(128 ≤ c.toNat && Text.hidden.contains c)) &&
    !label.head?.any Text.combining.contains

/-- The ASCII form of a mapped label. -/
def asciiLabel? (label : List Char) : Option (List Char) :=
  if label.all (·.toNat < 128) then
    if label.take 4 = "xn--".toList then
      match Punycode.decode? (label.drop 4) with
      | some decoded =>
        if decoded.any (128 ≤ ·.toNat) && isPlainLabel decoded &&
            decoded.flatMap mapChar == decoded then some label
        else none
      | none => none
    else if label.any isForbidden then none
    else some label
  else if isPlainLabel label then some ("xn--".toList ++ Punycode.encode label)
  else none

/-- The ASCII form of a host name; nothing when it is empty or has a label without one. -/
def asciiDomain? (host : List Char) : Option (List Char) := do
  let text ← Text.text? (decodeBytes ByteArray.empty host)
  let labels ← (Text.split '.' (text.toList.flatMap mapChar)).mapM asciiLabel?
  let domain := List.intercalate ['.'] labels
  if domain.isEmpty then none else some domain

end Formulary.Url
