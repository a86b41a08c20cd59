import Retention.CommandLine.Run
import Retention.Store.Listing

/-!
# The program

Reads the files that a run may need, runs the command line, prints what it says and writes the
database back. Databases are kept as listings.
-/

namespace Retention.CommandLine

open Connection (Files File FileAddress)
open Time (Instant)

/-- A file with this content, which may be the listing of a database. -/
def fileOf (content : ByteArray) : File :=
  let store? := do
    let text ← String.fromUTF8? content
    Store.ofListing? ((text.splitOn "\n").filter (· != ""))
  store?.elim (.bytes content) .database

/-- What stands at the path; nothing if it leads nowhere. -/
def readFile (path : String) : IO (Option File) := do
  try
    let real ← IO.FS.realPath path
    if ← real.isDir then
      return some .directory
    return some (fileOf (← IO.FS.readBinFile path))
  catch _ => return none

/-- The files at the given paths and on the way to them. -/
def gather (paths : List String) : IO Files := do
  let mut files : Files := []
  for path in (paths.flatMap Files.along).map Files.normal do
    if let some file ← readFile path then
      files := files.put path file
  return files

/-- The environment, as far as these names go. -/
def environmentOf (names : List String) : IO Settings.Environment := do
  let mut pairs : List (String × String) := []
  for name in names do
    if let some value ← IO.getEnv name then
      pairs := (name, value) :: pairs
  return fun name => pairs.lookup name

/-- The names that the references in a settings file may have. -/
def referenceNames (files : Files) (path : String) : List String :=
  match (files.content path).text with
  | .ok text => ((text.splitOn "$\x7b").drop 1).map fun piece => ((piece.splitOn "\x7d").headD "")
  | .error _ => []

/-- The present instant, at which a new file is written. -/
def presentInstant : IO Instant := do
  let (_, path) ← IO.FS.createTempFile
  let written := (← path.metadata).modified
  IO.FS.removeFile path
  return ⟨written.sec, written.nsec.toNat % 1000000000, Nat.mod_lt _ (by decide)⟩

/-- The path of the database that the settings lead to. -/
def databasePath? (settings : Except Settings.Problem Settings) : Option String := do
  match (← settings.toOption).database with
  | .file file => Files.normal (← (FileAddress.ofSettings file).toOption).path
  | _ => none

/-- Writes a database back. -/
def writeBack (files : Files) (path : String) : IO Unit := do
  if let some (.database store) := files.find? path then
    IO.FS.writeFile path (String.join (store.listing.map (· ++ "\n")))

end Retention.CommandLine

open Retention Retention.CommandLine in
def main (words : List String) : IO UInt32 := do
  let configPath := match parse words with
    | .ok request => request.given.config.getD defaultConfig
    | .error _ => defaultConfig
  let configFiles ← gather [configPath]
  let environment ← environmentOf
    (["RUST_LOG", "SITE_HOSTNAME", "PGHOSTADDR", "PGHOST", "PGPORT"] ++
      referenceNames configFiles configPath)
  let database? := databasePath? (Settings.ofFile environment configPath
    (configFiles.content configPath))
  let files ← gather (configPath :: database?.toList)
  let result := run ⟨files, environment, ← presentInstant⟩ words
  if let some path := database? then
    writeBack result.files path
  for line in result.stdout do
    IO.println line
  for line in result.stderr do
    IO.eprintln line
  return result.exit.toUInt32
