import DocQuery.Json.Printer

namespace DocQuery.Value

def text : Value → String
  | null => ""
  | string s => s
  | v => Json.compact v

end DocQuery.Value
