import Formulary.Error.Application
import Formulary.Raster.Decode
import Formulary.Render.Outcome
import Formulary.Url.WebUrl

/-!
# Fetchers — images at web addresses

A fetcher names itself to servers. The name goes into the head of every request, so it must not hold
control characters, except tabs. The library opens no connections: what a fetcher without one gives
is a failed transport.

* `Fetcher.make` — a fetcher that names itself, unless the name cannot be sent.
* `Fetcher.fetch` — what a request gives when no connection can be opened.
-/

namespace Formulary.Render

/-- A fetcher and the name that it sends. -/
structure Fetcher where
  userAgent : String
deriving DecidableEq, Repr

namespace Fetcher

/-- Whether a character may stand in the head of a request. -/
def isSendable (c : Char) : Bool := c == '\t' || ('\x20' ≤ c && c != '\x7f')

/-- A fetcher of a name that can be sent. -/
def make (userAgent : String) : Except ServiceError Fetcher :=
  if userAgent.toList.all isSendable then .ok ⟨userAgent⟩
  else .error (.httpClient "builder error")

/-- What a request gives when no connection can be opened. -/
def fetch (_ : Fetcher) (_ : String) : Answer Response := .failed (.transport none Raster.fileDetails)

end Fetcher
end Formulary.Render
