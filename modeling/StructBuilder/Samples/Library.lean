import StructBuilder.Samples.Checked

/-!
All sample types, by name. Between them they have every kind of property, with and
without defaults, under both libraries of collections.
-/

namespace StructBuilder.Sample

private def shelfFields : List String :=
  ["items: IndexMap<String, i64>", "tags: IndexSet<String>", "ids: IndexSet<i64>",
   "queue: VecDeque<u8>", "label: Option<String>"]

private def pairOf (parameter : String) : Sample where
  name := "Pair"
  source := declare "" "Pair<T>"
    ["left: T", "right: Option<T>", "history: Vec<T>", "index: BTreeMap<T, usize>"]
  parameters := [("T", parameter)]
  hook? := noHook

private def unchecked : List Sample :=
  [plain "Person"
      ["name: String", "age: u32", "#[builder(default = 3)] retries: u32",
       "#[builder(default)] visits: u16", "#[builder(default = \"guest\")] role: String"] "",
   plain "Profile"
      ["handle: String", "nickname: Option<String>", "#[builder(nullable)] age: Option<u32>",
       "#[builder(default = Some(8080))] port: Option<u16>", "aliases: Option<Vec<String>>",
       "depth: Option<Option<u8>>"] "",
   plain "Inventory" ["x: String", "entries: BTreeMap<String, i32>", "counts: HashMap<u8, u64>"] "",
   plain "Shelf" shelfFields "",
   plain "Rack" shelfFields "#[builder(collections = \"fallback\")]",
   plain "Playlist"
      ["title: String", "#[builder(default = -1)] volume: i32", "tracks: Vec<String>",
       "ratings: VecDeque<u8>", "gains: Vec<f64>"] "#[builder(mappers = false)]",
   plain "Ladder" ["by_rank: BTreeMap<Rank, String>", "ranks: BTreeSet<Rank>", "top: Option<Rank>"] "",
   plain "Order"
      ["id: u64", "note: Option<String>", "tags: BTreeSet<String>",
       "#[builder(default = 1)] quantity: u32"] "",
   plain "Lines" ["line_1: u32", "line1: u32", "self_: u32", "r#type: String"] "",
   plain "Wide"
      ["a: i64", "b: u64", "c: char", "d: f64", "#[builder(default)] e: bool",
       "#[builder(default = i128::MAX)] f: i128", "g: Option<f64>", "by_char: BTreeMap<char, String>",
       "by_text: IndexMap<Option<String>, Vec<u8>>"] "",
   plain "Blank" [] "",
   plain "Catalogue"
      ["names: BTreeMap<u32, String>", "codes: HashMap<String, u8>", "labels: HashSet<String>",
       "queue: VecDeque<u8>"] "#[builder(collections = \"fallback\")]"]

def find? (name : String) : Option Sample :=
  match name with
  | "PairString" => some (pairOf "String")
  | "PairInt" => some (pairOf "i64")
  | _ => (unchecked ++ [account, quota]).find? (·.name == name)

end StructBuilder.Sample
