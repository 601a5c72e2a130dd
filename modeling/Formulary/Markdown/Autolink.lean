import Formulary.Markdown.Glyph
import Formulary.Text.Punctuation
import Formulary.Text.Whitespace

/-!
# Addresses in prose — links without brackets

Web addresses, host names that start with `www.` and mail addresses are links where they stand in
running text; so is an address of any scheme between angle brackets.

* `domainEnd?` — the length of the host name at the start of a text.
* `trimAddress` — an address without the punctuation behind it that belongs to the sentence.
* `bracketed?` — an address between angle brackets.
* `mail?` — a mail address around an at sign.
-/

namespace Formulary.Markdown

/-- Whether a character may stand in a host name. -/
def isHostChar (c : Char) : Bool := !Text.isBlank c && !Text.punctuation.contains c

/-- Walks over a host name: `count` bytes of labels are counted, `dots` dots have been seen, and
the last two labels hold the given numbers of underscores. -/
def domainFrom (short : Bool) (count dots older newer : Nat) : List Char → Option Nat
  | [] =>
    if (older != 0 || newer != 0) && dots ≤ 10 then none
    else if short || dots != 0 then some count else none
  | c :: rest =>
    if c = '\\' && !rest.isEmpty then domainFrom short (count + 1) dots older newer rest
    else if c = '_' then domainFrom short (count + 1) dots older (newer + 1) rest
    else if c = '.' then domainFrom short (count + 1) (dots + 1) newer 0 rest
    else if isHostChar c || c = '-' then domainFrom short (count + 1) dots older newer rest
    else if older = 0 && newer = 0 && (short || dots != 0) then some count else none

/-- The number of characters of the host name at the start of a text; unless it may be `short` it
holds a dot. -/
def domainEnd? (short : Bool) (cs : List Char) : Option Nat := domainFrom short 0 0 0 0 cs

/-- The length of an entity name in front of the semicolon that ends reversed characters. -/
def entityBehind? (reversed : List Char) : Option Nat :=
  let name := reversed.takeWhile isAsciiAlphanumeric
  if name.isEmpty then none
  else if reversed[name.length]? = some '&' then some (name.length + 1) else none

/-- Takes punctuation that belongs to the sentence off reversed characters. -/
def trimAddressFrom : Nat → List Char → List Char
  | 0, cs => cs
  | _, [] => []
  | fuel + 1, c :: rest =>
    if "?!.,:*_~'\"[]".contains c then trimAddressFrom fuel rest
    else if c = ';' then
      match entityBehind? rest with
      | some n => trimAddressFrom fuel (rest.drop n)
      | none => trimAddressFrom fuel rest
    else if c = ')' && (c :: rest).count '(' < (c :: rest).count ')' then trimAddressFrom fuel rest
    else c :: rest

/-- The length of an address without the punctuation behind it. -/
def trimAddress (cs : List Char) : Nat :=
  let cs := cs.takeWhile (· != '<')
  (trimAddressFrom cs.length cs.reverse).length

/-- The length of the address at the start of a text whose host name has been seen. -/
def addressLength (cs : List Char) : Nat := trimAddress (cs.takeWhile fun c => !isAsciiSpace c)

/-- Schemes of addresses that need no brackets. -/
def plainSchemes : List String := ["http", "https", "ftp"]

/-- The scheme of an address and the length of the whole behind it, where `before` holds the
reversed characters in front of a colon and `after` starts with it. -/
def webAddress? (before after : List Char) : Option (Nat × Nat) :=
  match after with
  | ':' :: '/' :: '/' :: host =>
    let scheme := (before.takeWhile isAsciiLetter).reverse
    if plainSchemes.contains (String.ofList scheme) && !host.isEmpty &&
        (domainEnd? true host).isSome then some (scheme.length, addressLength after)
    else none
  | _ => none

/-- The length of an address that starts with `www.`, where `before?` is the character in front. -/
def hostAddress? (before? : Option Char) (cs : List Char) : Option Nat :=
  if before?.all (fun c => isAsciiSpace c || "*_~([".contains c) && "www.".toList.isPrefixOf cs &&
      (domainEnd? false cs).isSome then some (addressLength cs)
  else none

/-- The length of a scheme with its colon: a letter, and one to thirty-one more characters. -/
def scheme? (cs : List Char) : Option Nat :=
  let n := (cs.takeWhile fun c => isAsciiAlphanumeric c || "+.-".contains c).length
  if cs.head?.any isAsciiLetter && 2 ≤ n && n ≤ 32 && cs[n]? = some ':' then some (n + 1) else none

/-- The length of an address of any scheme in front of `>`. -/
def bracketedUri? (cs : List Char) : Option Nat := do
  let n ← scheme? cs
  let address := (cs.drop n).takeWhile fun c => 0x20 < c.toNat && c != '<' && c != '>'
  if (cs.drop (n + address.length)).head? = some '>' then some (n + address.length) else none

/-- Whether characters are a label of a host name: letters, digits and inner hyphens. -/
def isMailLabel (cs : List Char) : Bool :=
  !cs.isEmpty && cs.length ≤ 63 && cs.all (fun c => isAsciiAlphanumeric c || c == '-') &&
    cs.head? != some '-' && cs.getLast? != some '-'

/-- The length of a mail address in front of `>`. -/
def bracketedMail? (cs : List Char) : Option Nat :=
  let user := cs.takeWhile fun c => isAsciiAlphanumeric c || ".!#$%&'*+/=?^_`\x7b|\x7d~-".contains c
  let host := (cs.drop (user.length + 1)).takeWhile fun c => isAsciiAlphanumeric c || c == '-' || c == '.'
  let n := user.length + 1 + host.length
  if !user.isEmpty && cs[user.length]? = some '@' && cs[n]? = some '>' &&
      ((String.ofList host).splitOn ".").all (fun label => isMailLabel label.toList) then some n
  else none

/-- The length of an address between angle brackets, of which the first has been read. -/
def bracketed? (cs : List Char) : Option Nat := (bracketedUri? cs).or (bracketedMail? cs)

/-- The length of what stands in front of an at sign, where `before` holds the reversed characters;
a scheme `mailto:` or `xmpp:` belongs to it. The second value says that it is `xmpp:`. -/
def mailUser (fuel : Nat) (xmpp : Bool) (count : Nat) (before : List Char) : Nat × Bool :=
  match fuel with
  | 0 => (count, xmpp)
  | fuel + 1 =>
    let user := before.takeWhile fun c => isAsciiAlphanumeric c || ".+-_".contains c
    let count := count + user.length
    match before.drop user.length with
    | ':' :: rest =>
      let scheme := String.ofList (rest.takeWhile isAsciiLetter).reverse
      if scheme = "mailto" then mailUser fuel xmpp (count + 1) rest
      else if scheme = "xmpp" then mailUser fuel true (count + 1) rest
      else (count, xmpp)
    | _ => (count, xmpp)

/-- Walks over the host name of a mail address: `count` characters and `dots` dots have been seen.
Nothing results at a second at sign. -/
def mailHost (xmpp : Bool) (count dots : Nat) : List Char → Option (Nat × Nat)
  | [] => some (count, dots)
  | c :: rest =>
    if isAsciiAlphanumeric c then mailHost xmpp (count + 1) dots rest
    else if c = '@' then none
    else if c = '.' && rest.head?.any isAsciiAlphanumeric then mailHost xmpp (count + 1) (dots + 1) rest
    else if c = '/' && xmpp then mailHost xmpp (count + 1) dots rest
    else if c = '-' || c = '_' then mailHost xmpp (count + 1) dots rest
    else some (count, dots)

/-- A mail address around an at sign: how many of the reversed characters `before` belong to it,
and how many from the at sign on. -/
def mail? (before after : List Char) : Option (Nat × Nat) := do
  let (user, xmpp) := mailUser (before.length + 1) false 0 before
  let (count, dots) ← mailHost xmpp 0 0 (after.drop 1)
  let last := after[count]?
  if user = 0 || count = 0 || dots = 0 || !last.any (fun c => isAsciiLetter c || c == '.') then none
  else
    let length := trimAddress (after.take (count + 1))
    if length = 0 then none else some (user, length)

end Formulary.Markdown
