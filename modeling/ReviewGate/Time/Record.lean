import ReviewGate.Data.Document
import ReviewGate.Time.Reader

/-!
# Instants in records
-/

namespace ReviewGate.Instant

def toJson (instant : Instant) : Json := .string instant.toText

def ofDocument? (document : Document) : Option Instant := document.toText? >>= ofText?

end ReviewGate.Instant
