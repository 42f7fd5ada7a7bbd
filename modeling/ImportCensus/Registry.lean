import ImportCensus.Text.Quoted

namespace ImportCensus

/-!
# Module registries

A registry is a fixed set of module names that never count as third-party, with
the version of the standard library that it stands for.  The standard registry
is pinned, and it keeps five modules that version 3.12 no longer has.
-/

/-- A set of module names with the version they were taken from. -/
structure Registry where
  version : String
  names : List String
  deriving Repr

namespace Registry

def pinnedVersion : String := "3.12"

/-- The registry of some names; repeated names count once. -/
def ofNames (names : List String) (version : String) : Registry :=
  ⟨version, names.eraseDups⟩

/-- Whether a name is registered. -/
def knows (registry : Registry) (name : String) : Bool := registry.names.contains name

/-- The number of registered names. -/
def size (registry : Registry) : Nat := registry.names.length

/-- How a registry is shown. -/
def description (registry : Registry) : String :=
  "StdlibRegistry(version=" ++ Text.quoted registry.version ++ ", size=" ++
    toString registry.size ++ ")"

/-- The public modules of the standard library. -/
def publicNames : List String :=
  ["__future__", "abc", "aifc", "antigravity", "argparse", "array", "ast", "asynchat", "asyncio",
   "asyncore", "atexit", "audioop", "base64", "bdb", "binascii", "bisect", "builtins", "bz2",
   "cProfile", "calendar", "cgi", "cgitb", "chunk", "cmath", "cmd", "code", "codecs", "codeop",
   "collections", "colorsys", "compileall", "concurrent", "configparser", "contextlib",
   "contextvars", "copy", "copyreg", "crypt", "csv", "ctypes", "curses", "dataclasses",
   "datetime", "dbm", "decimal", "difflib", "dis", "distutils", "doctest", "email", "encodings",
   "ensurepip", "enum", "errno", "faulthandler", "fcntl", "filecmp", "fileinput", "fnmatch",
   "fractions", "ftplib", "functools", "gc", "genericpath", "getopt", "getpass", "gettext",
   "glob", "graphlib", "grp", "gzip", "hashlib", "heapq", "hmac", "html", "http", "idlelib",
   "imaplib", "imghdr", "imp", "importlib", "inspect", "io", "ipaddress", "itertools", "json",
   "keyword", "lib2to3", "linecache", "locale", "logging", "lzma", "mailbox", "mailcap",
   "marshal", "math", "mimetypes", "mmap", "modulefinder", "msilib", "msvcrt", "multiprocessing",
   "netrc", "nis", "nntplib", "nt", "ntpath", "nturl2path", "numbers", "opcode", "operator",
   "optparse", "os", "ossaudiodev", "pathlib", "pdb", "pickle", "pickletools", "pipes",
   "pkgutil", "platform", "plistlib", "poplib", "posix", "posixpath", "pprint", "profile",
   "pstats", "pty", "pwd", "py_compile", "pyclbr", "pydoc", "pydoc_data", "pyexpat", "queue",
   "quopri", "random", "re", "readline", "reprlib", "resource", "rlcompleter", "runpy", "sched",
   "secrets", "select", "selectors", "shelve", "shlex", "shutil", "signal", "site", "smtpd",
   "smtplib", "sndhdr", "socket", "socketserver", "spwd", "sqlite3", "sre_compile",
   "sre_constants", "sre_parse", "ssl", "stat", "statistics", "string", "stringprep", "struct",
   "subprocess", "sunau", "symtable", "sys", "sysconfig", "syslog", "tabnanny", "tarfile",
   "telnetlib", "tempfile", "termios", "textwrap", "this", "threading", "time", "timeit",
   "tkinter", "token", "tokenize", "tomllib", "trace", "traceback", "tracemalloc", "tty",
   "turtle", "turtledemo", "types", "typing", "unicodedata", "unittest", "urllib", "uu", "uuid",
   "venv", "warnings", "wave", "weakref", "webbrowser", "winreg", "winsound", "wsgiref",
   "xdrlib", "xml", "xmlrpc", "zipapp", "zipfile", "zipimport", "zlib", "zoneinfo"]

/-- Accelerator modules that are imported directly often enough to matter. -/
def privateNames : List String :=
  ["_abc", "_ast", "_asyncio", "_bisect", "_bz2", "_codecs", "_collections", "_collections_abc",
   "_compat_pickle", "_compression", "_contextvars", "_csv", "_ctypes", "_curses", "_datetime",
   "_decimal", "_elementtree", "_functools", "_hashlib", "_heapq", "_imp", "_io", "_json",
   "_locale", "_lzma", "_markupbase", "_md5", "_multiprocessing", "_opcode", "_operator",
   "_osx_support", "_pickle", "_posixsubprocess", "_py_abc", "_pydecimal", "_pyio", "_queue",
   "_random", "_sha1", "_sha256", "_sha512", "_signal", "_socket", "_sqlite3", "_sre", "_ssl",
   "_stat", "_string", "_strptime", "_struct", "_thread", "_threading_local", "_tkinter",
   "_tracemalloc", "_warnings", "_weakref", "_weakrefset", "_winapi", "_zoneinfo"]

/-- The modules of the standard library. -/
def standard : Registry := ofNames (publicNames ++ privateNames) pinnedVersion

theorem knows_iff {registry : Registry} {name : String} :
    registry.knows name = true ↔ name ∈ registry.names := by
  rw [knows, List.contains_iff_mem]

end Registry

end ImportCensus
