import JsxVNode.Cache.Sha256
import JsxVNode.Json.Options
import JsxVNode.Json.Write
/-!
The incremental cache. A compiled file is stored under a name made from its path, together with
a hash of everything that decides its output: the compiler version, the layout of the node
flags, the options and the source. An entry whose hash differs from the current one is stale;
an entry that cannot be read is corrupt and is dropped.
-/
namespace JsxVNode.Cache

def version : String := "0.1.0"

def flagsLayout : UInt32 := 1

def directory : String := ".vnodec/cache"

def littleEndian (n : UInt32) : List UInt8 :=
  [n.toUInt8, (n >>> 8).toUInt8, (n >>> 16).toUInt8, (n >>> 24).toUInt8]

/-- The bytes that the hash of a source compiled with some options covers: the version, the flag
layout, the options in compact JSON, a zero byte, and the source. -/
def key (source : String) (options : Options) : List UInt8 :=
  version.toUTF8.toList ++ littleEndian flagsLayout ++ (options.toJson.compact).toUTF8.toList ++
    [0] ++ source.toUTF8.toList

def hash (source : String) (options : Options) : String := Sha256.hexDigest (key source options)

def entryName (path : String) : String :=
  String.ofList (path.toList.map fun c => if c == '/' || c == '\\' || c == ':' then '_' else c) ++
    ".json"

/-- A stored compilation: the hash it was made for, the code, and the number of markup sites
and static blueprints it had. -/
structure Entry where
  hash : String
  code : String
  sites : Nat := 0
  blueprints : Nat := 0
deriving DecidableEq, Repr

namespace Entry

def render (e : Entry) : String :=
  (Json.obj [("hash", .str e.hash), ("code", .str e.code), ("sites", Json.nat e.sites),
    ("blueprints", Json.nat e.blueprints)]).compact

def fieldNames : List String := ["hash", "code", "sites", "blueprints"]

/-- Reads a count: an unsigned integer of at most 64 bits, written without fraction or
exponent. -/
def count : JsonReader Nat := do
  match ← JsonReader.blanks with
  | some 45 =>
    JsonReader.bump
    let _ ← JsonReader.number false
    throw { message := "invalid value" }
  | some c =>
    if JsonReader.isDigit c then
      match ← JsonReader.number true with
      | .int n => return n.toNat
      | .float _ => throw { message := "invalid type" }
    else JsonReader.wrongType "usize"
  | none => JsonReader.failAhead "EOF while parsing a value"

/-- The fields read so far: the hash and code when given, and the counts. -/
structure Partial where
  hash : Option String := none
  code : Option String := none
  sites : Nat := 0
  blueprints : Nat := 0

def readField (p : Partial) (name : String) : JsonReader Partial := do
  if name == "hash" then return { p with hash := some (← JsonReader.stringValue) }
  if name == "code" then return { p with code := some (← JsonReader.stringValue) }
  if name == "sites" then return { p with sites := ← count }
  return { p with blueprints := ← count }

def readMembers : Nat → Partial → List String → Bool → JsonReader Partial
  | 0, p, _, _ => pure p
  | n + 1, p, seen, first => do
    match ← JsonReader.key first with
    | none => return p
    | some k =>
      if fieldNames.contains k then
        if seen.contains k then throw { message := "duplicate field `" ++ k ++ "`" }
        JsonReader.colon
        let p ← readField p k
        readMembers n p (k :: seen) false
      else
        JsonReader.colon
        JsonReader.ignored
        readMembers n p seen false

def readElements : List String → Partial → Bool → JsonReader Partial
  | [], p, _ => pure p
  | name :: rest, p, first => do
    let more ← match ← JsonReader.blanks with
      | some 93 => pure false
      | some 44 =>
        if first then pure true
        else
          JsonReader.bump
          match ← JsonReader.blanks with
          | some 93 => JsonReader.failAhead "trailing comma"
          | some _ => pure true
          | none => JsonReader.failAhead "EOF while parsing a value"
      | some _ => if first then pure true else JsonReader.failAhead "expected `,` or `]`"
      | none => JsonReader.failAhead "EOF while parsing a list"
    if !more then return p
    let p ← readField p name
    readElements rest p false

def ofPartial (p : Partial) : Except JsonError Entry :=
  match p.hash, p.code with
  | some hash, some code => .ok { hash, code, sites := p.sites, blueprints := p.blueprints }
  | none, _ => .error { message := "missing field `hash`" }
  | _, none => .error { message := "missing field `code`" }

def reader : JsonReader Entry := do
  let p ← match ← JsonReader.blanks with
    | none => JsonReader.failAhead "EOF while parsing a value"
    | some 123 =>
      JsonReader.bump
      Options.withEnd (readMembers ((← MonadReader.read).size + 1) {} [] true) JsonReader.endMap
    | some 91 =>
      JsonReader.bump
      Options.withEnd (readElements fieldNames {} true) JsonReader.endList
    | some _ => JsonReader.wrongType "struct CacheEntry"
  match ofPartial p with
  | .ok e => return e
  | .error err => throw err

def parse? (text : String) : Option Entry :=
  match JsonReader.runOn reader text with
  | .ok e => some e
  | .error _ => none

end Entry

end JsxVNode.Cache
