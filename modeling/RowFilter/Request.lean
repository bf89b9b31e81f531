import RowFilter.Text.Utf8
import RowFilter.Url.Query

/-! Requests, as far as filters are concerned: query parameters in order, and parameters of the
route. -/

namespace RowFilter

structure Request where
  query : List (String × String)
  route : List (String × String)
deriving DecidableEq, Repr

namespace Request

open Text

def formText (cs : List Char) : String :=
  Utf8.decodeLossy (percentDecode (utf8Bytes (cs.map fun c => if c = '+' then ' ' else c)))

def formPair (cs : List Char) : String × String :=
  (formText (cs.takeWhile (· != '=')), formText ((cs.dropWhile (· != '=')).drop 1))

def formPairs (cs : List Char) : List (String × String) :=
  ((cs.splitOn '&').filter (!·.isEmpty)).map formPair

def empty : Request := ⟨[], []⟩

def ofQueryString (s : String) : Request :=
  match s.toList with
  | '?' :: cs => ⟨formPairs cs, []⟩
  | cs => ⟨formPairs cs, []⟩

def ofUrl (s : String) : Except Url.UrlError Request :=
  (Url.query s.toList).map fun q => ⟨formPairs q, []⟩

def addQuery (r : Request) (name value : String) : Request :=
  { r with query := r.query ++ [(name, value)] }

def addRoute (r : Request) (name value : String) : Request :=
  { r with route := (name, value) :: r.route }

def query? (r : Request) (name : String) : Option String := r.query.lookup name

def route? (r : Request) (name : String) : Option String := r.route.lookup name

end Request

end RowFilter
