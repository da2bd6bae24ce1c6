import LinkTidy.Url
/-!
An address whose query has been split into pairs. Pairs can be removed, and the address can be written again with the
pairs that are left.
-/

set_option autoImplicit false

namespace LinkTidy

/-- The pairs of a query, written with or without its question mark; empty ones do not count. -/
def splitQuery (query : Text) : List Text :=
  let pairs := match query with
    | '?' :: rest => rest
    | _ => query
  (fields '&' pairs).filter fun pair => !pair.isEmpty

structure UrlModel where
  url : Url
  pairs : List Text
deriving DecidableEq, Repr

namespace UrlModel

def ofUrl (url : Url) : UrlModel where
  url := url
  pairs := (url.query.map splitQuery).getD []

def parse (text : Text) : UrlModel :=
  ofUrl (Url.ofText 0 text)

def removePairs (test : Text → Bool) (model : UrlModel) : UrlModel × Bool :=
  ({ model with pairs := model.pairs.filter fun pair => !test pair }, model.pairs.any test)

def joinPairs (pairs : List Text) : Text :=
  if pairs.isEmpty then [] else '?' :: ['&'].intercalate pairs

/-- Writes the address with the pairs that are left. An address without a query is written as it was found. -/
def finalize (model : UrlModel) : Text :=
  match model.url.query with
  | none => model.url.original
  | some _ => model.url.resource ++ joinPairs model.pairs ++ model.url.fragment.getD []

end UrlModel
end LinkTidy
