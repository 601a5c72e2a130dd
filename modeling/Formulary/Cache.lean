import Formulary.Bitmap
import Formulary.Document.Key

/-!
# The bitmap cache — the bitmaps used last, within two bounds

All documents share one cache. It holds bitmaps under their keys by the time of their last use,
each with a cost in bytes. It holds at most `maxItems` bitmaps, and when their cost is above
`maxBytes` it gives up those used least recently until the cost fits or one bitmap is left.

* `RenderCache.put`, `RenderCache.insert` — stores a bitmap; the keys given up come back in order.
* `RenderCache.get` — reads a bitmap and makes it the one used last.
* `RenderCache.contains` — says whether a key has a bitmap, which is no use.
* `RenderCache.remove` — takes a bitmap out.

The total cost is counted in 64 bits: sums stop at the greatest number and differences at zero.
-/

namespace Formulary

/-- The greatest number of 64 bits, at which byte counts stop. -/
def byteCountLimit : Nat := UInt64.size - 1

/-- The bounds of a cache; zero counts as one. -/
structure CacheBounds where
  maxItems : Nat := 200
  maxBytes : Nat := 100 * 1024 * 1024
deriving DecidableEq, Repr, Inhabited

/-- A bitmap in the cache with its key and its cost. -/
structure CacheEntry where
  key : RenderKey
  bitmap : Bitmap
  cost : Nat
deriving DecidableEq, Inhabited

/-- Bitmaps by the time of their last use, the last used first, and their cost. -/
structure RenderCache where
  maxItems : Nat
  maxBytes : Nat
  entries : List CacheEntry := []
  bytes : Nat := 0
deriving Inhabited

namespace RenderCache

/-- The cache with given bounds and no bitmaps. -/
def new (bounds : CacheBounds) : RenderCache :=
  { maxItems := max 1 bounds.maxItems, maxBytes := max 1 bounds.maxBytes }

/-- The entry of a key. -/
def find? (c : RenderCache) (key : RenderKey) : Option CacheEntry :=
  c.entries.find? fun e => e.key == key

/-- Entries without that of a key. -/
def without (entries : List CacheEntry) (key : RenderKey) : List CacheEntry :=
  entries.filter fun e => e.key != key

/-- Whether a key has a bitmap. -/
def contains (c : RenderCache) (key : RenderKey) : Bool := (c.find? key).isSome

/-- The number of bitmaps. -/
def size (c : RenderCache) : Nat := c.entries.length

/-- Whether there is no bitmap. -/
def isEmpty (c : RenderCache) : Bool := c.entries.isEmpty

/-- Reads the bitmap of a key, which becomes the one used last. -/
def get (c : RenderCache) (key : RenderKey) : Option Bitmap × RenderCache :=
  match c.find? key with
  | some e => (some e.bitmap, { c with entries := e :: without c.entries key })
  | none => (none, c)

/-- Puts an entry in front. When its key is there already the entry of that key makes room for it,
and when the cache is full the one used least recently does; the entry that made room comes back. -/
def push (c : RenderCache) (entry : CacheEntry) : Option CacheEntry × List CacheEntry :=
  match c.find? entry.key with
  | some old => (some old, entry :: without c.entries entry.key)
  | none =>
    if c.entries.length < c.maxItems then (none, entry :: c.entries)
    else (c.entries.getLast?, entry :: c.entries.dropLast)

/-- Gives up entries from the end while the cost is above the bound and more than one is left. The
entries come last first, and the keys given up come back in order. -/
def trim (maxBytes bytes : Nat) : List CacheEntry → List RenderKey × List CacheEntry × Nat
  | e :: f :: rest =>
    if bytes > maxBytes then
      let (evicted, left, bytes) := trim maxBytes (bytes - e.cost) (f :: rest)
      (e.key :: evicted, left, bytes)
    else ([], e :: f :: rest, bytes)
  | entries => ([], entries, bytes)

/-- Stores a bitmap with its cost as the one used last. The keys given up for it come back in
order. -/
def put (c : RenderCache) (key : RenderKey) (bitmap : Bitmap) (cost : Nat) :
    List RenderKey × RenderCache :=
  let (old, entries) := c.push ⟨key, bitmap, cost⟩
  let bytes := match old with | some e => c.bytes - e.cost | none => c.bytes
  let pushed := match old with | some e => if e.key = key then [] else [e.key] | none => []
  let bytes := min (bytes + cost) byteCountLimit
  let (trimmed, left, bytes) := trim c.maxBytes bytes entries.reverse
  (pushed ++ trimmed, { c with entries := left.reverse, bytes })

/-- Stores a bitmap at the cost of its pixels. -/
def insert (c : RenderCache) (key : RenderKey) (bitmap : Bitmap) : List RenderKey × RenderCache :=
  c.put key bitmap bitmap.byteCost

/-- Takes the bitmap of a key out. -/
def remove (c : RenderCache) (key : RenderKey) : Option Bitmap × RenderCache :=
  match c.find? key with
  | some e =>
    (some e.bitmap, { c with entries := without c.entries key, bytes := c.bytes - e.cost })
  | none => (none, c)

end RenderCache
end Formulary
