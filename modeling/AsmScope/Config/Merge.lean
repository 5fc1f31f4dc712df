import AsmScope.Document.Value

/-! Laying one configuration over another. Where both have a table the tables are merged, and everywhere else
the upper one wins. -/

namespace AsmScope.Config

def merge (lower upper : Fields) : Fields :=
  match upper with
  | [] => lower
  | (key, .table above) :: rest =>
    let value := match Fields.get? lower key with
      | some (.table below) => .table (merge below above)
      | _ => .table above
    merge (Fields.insert lower key value) rest
  | (key, value) :: rest => merge (Fields.insert lower key value) rest

end AsmScope.Config
