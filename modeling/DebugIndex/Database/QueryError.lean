/-!
# Errors of queries

A query that is put with values of any kind can not be answered when a value has
the wrong kind for what would be done with it.
-/

namespace DebugIndex

/-- Why a query can not be answered: two kinds that can not be compared, or a kind
that is no index, no key, no beginning of a name, or no number to be shown. -/
inductive QueryError
  | unordered (relation left right : String)
  | unfitIndex (kind : String)
  | unfitKey (kind : String)
  | unfitStart (kind : String)
  | unfitNumber (kind : String)
  deriving DecidableEq

def QueryError.message : QueryError → String
  | .unordered relation left right =>
      "'" ++ relation ++ "' not supported between instances of '" ++ left ++ "' and '" ++
        right ++ "'"
  | .unfitIndex kind => "list indices must be integers or slices, not " ++ kind
  | .unfitKey kind => "unhashable type: '" ++ kind ++ "'"
  | .unfitStart kind => "startswith first arg must be str or a tuple of str, not " ++ kind
  | .unfitNumber kind => "unsupported format string passed to " ++ kind ++ ".__format__"

end DebugIndex
