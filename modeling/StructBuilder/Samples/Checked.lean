import StructBuilder.Samples.Basic
import StructBuilder.Unicode.Blank

/-!
Samples whose properties are checked. The hooks of an account look at the value alone;
those of a quota also read the builder: its limit, its total, and how much its
collections hold already.
-/

namespace StructBuilder.Sample

open Run (CheckHook State)

private def refuse (property message : String) : Except BuilderError Unit :=
  .error (.validation property message)

private def isBlank (text : String) : Bool :=
  text.toList.all Unicode.isWhitespace

private def mentions (c : Char) (text : String) : Bool :=
  text.toList.contains c

private def accountHook? : MethodName → Option (CheckHook Datum)
  | .action .check "name" => some fun _ arguments =>
      match arguments with
      | [.text value] => if isBlank value then refuse "name" "must not be blank" else .ok ()
      | _ => .ok ()
  | .action .check "limits" => some fun _ arguments =>
      match arguments with
      | [_, .int value] => if value > 1000 then refuse "limits" "limit too high" else .ok ()
      | _ => .ok ()
  | .action .check "emails" => some fun _ arguments =>
      match arguments with
      | [.text element] =>
          if mentions '@' element then .ok () else refuse "emails" ("not an address: " ++ element)
      | _ => .ok ()
  | .action .check "roles" => some fun _ arguments =>
      match arguments with
      | [.text element] => if element == "root" then refuse "roles" "root is reserved" else .ok ()
      | _ => .ok ()
  | .action .check "level" => some fun _ arguments =>
      match arguments with
      | [.int value] => if value > 100 then refuse "level" (toString value ++ " > 100") else .ok ()
      | _ => .ok ()
  | _ => none

def account : Sample where
  name := "Account"
  source := declare "" "Account"
    ["#[builder(check)] name: String", "#[builder(check)] limits: BTreeMap<String, u32>",
     "#[builder(check)] emails: Vec<String>", "#[builder(check)] nickname: Option<String>",
     "#[builder(check)] roles: IndexSet<String>", "#[builder(check, default = 200)] level: u8",
     "plain: u8"]
  parameters := []
  hook? := accountHook?

private def limit (state : State Datum) : Int :=
  match state.content? "limit" with
  | some (.int value) => value
  | _ => 0

private def count (state : State Datum) (field : String) : Nat :=
  match state.cell? field with
  | some cell => cell.elements.length + cell.entries.length
  | none => 0

private def fullAt (property : String) (room : Nat) : CheckHook Datum := fun state arguments =>
  if count state property < room then .ok ()
  else refuse property ("full at " ++ ", ".intercalate (arguments.map Datum.debug))

private def quotaHook? : MethodName → Option (CheckHook Datum)
  | .action .check "total" => some fun state arguments =>
      match arguments with
      | [.int value] =>
          if value > limit state then
            refuse "total" (toString value ++ " over " ++ toString (limit state))
          else .ok ()
      | _ => .ok ()
  | .action .check "items" => some (fullAt "items" 3)
  | .action .check "seen" => some (fullAt "seen" 2)
  | .action .check "table" => some fun state arguments =>
      if count state "table" < 2 then
        match arguments with
        | [.int key, .int value] =>
            if value < key then refuse "table" (toString value ++ " < " ++ toString key) else .ok ()
        | _ => .ok ()
      else refuse "table" "full"
  | .action .check "note" => some fun state _ =>
      match state.content? "total" with
      | some _ => .ok ()
      | none => .error (.unset "Quota" "total")
  | _ => none

def quota : Sample where
  name := "Quota"
  source := declare "" "Quota"
    ["#[builder(default = 10)] limit: i32", "#[builder(check)] total: i32",
     "#[builder(check)] items: Vec<u8>", "#[builder(check)] seen: BTreeSet<u8>",
     "#[builder(check)] table: IndexMap<u8, u8>", "#[builder(check)] note: Option<String>"]
  parameters := []
  hook? := quotaHook?

end StructBuilder.Sample
