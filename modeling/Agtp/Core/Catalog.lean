import Mathlib.Data.List.Sort
import Agtp.Foundation.Text

/-! # The verb catalog

`core/methods.json` as it is loaded: the approved verbs, the embedded
primitives and the legacy HTTP verbs with their replacements. -/

namespace Agtp

structure Catalog where
  approved : List String
  embedded : List String
  legacy : List (String × String)

namespace Catalog

/-! ## Verb sets -/

def legacyVerbs (catalog : Catalog) : List String :=
  catalog.legacy.map Prod.fst

def protocolVerbs (catalog : Catalog) : List String :=
  catalog.approved ++ catalog.embedded

def pathProtocolVerbs (catalog : Catalog) : List String :=
  catalog.approved ++ catalog.legacyVerbs

def isApprovedVerb [TextCase] (catalog : Catalog) (name : String) : Bool :=
  catalog.protocolVerbs.contains (upper name)

def isEmbedded (catalog : Catalog) (name : String) : Bool :=
  catalog.embedded.contains name

/-! ## Suggestions for a misspelt verb -/

/-- The rest of a row of the distance table, from its left neighbour and the
row above. -/
def distanceRow (character : Char) (left : Nat) :
    List Char → List Nat → List Nat
  | other :: rest, diagonal :: above :: more =>
      let cost := if character = other then 0 else 1
      let value := min (min (above + 1) (left + 1)) (diagonal + cost)
      value :: distanceRow character value rest (above :: more)
  | _, _ => []

def levenshtein (first second : String) : Nat :=
  let columns := second.toList
  let start := List.range (columns.length + 1)
  let rows := first.toList.foldl
    (fun (state : Nat × List Nat) character =>
      (state.1 + 1,
        (state.1 + 1) :: distanceRow character (state.1 + 1) columns state.2))
    (0, start)
  rows.2.getLastD 0

example : levenshtein "FETH" "FETCH" = 1 := by decide

def findCloseMatches [TextCase] (catalog : Catalog) (name : String) :
    List String :=
  let preferred := (catalog.legacy.lookup (upper name)).toList
  let scored := (catalog.protocolVerbs.dedup.filter (· ≠ upper name)).map
    fun candidate => (levenshtein (upper name) candidate, candidate)
  let ranked := (scored.filter (·.1 ≤ 2)).mergeSort fun left right =>
    left.1 < right.1 || (left.1 == right.1 && decide (left.2 ≤ right.2))
  (preferred ++ (ranked.map Prod.snd).filter (!preferred.contains ·)).take 3

end Catalog

/-! ## The shipped catalog -/

def embeddedVerbs : List String := [
  "QUERY", "DISCOVER", "DESCRIBE", "SUMMARIZE", "PLAN", "EXECUTE", "DELEGATE",
  "ESCALATE", "CONFIRM", "SUSPEND", "PROPOSE", "NOTIFY", "INSPECT", "ACTIVATE",
  "DEACTIVATE", "REVOKE", "REINSTATE", "DEPRECATE"]

def approvedVerbs : List String := [
  "QUERY", "DISCOVER", "DESCRIBE", "SUMMARIZE", "PLAN", "EXECUTE", "DELEGATE",
  "ESCALATE", "CONFIRM", "SUSPEND", "PROPOSE", "NOTIFY", "INSPECT", "ACTIVATE",
  "DEACTIVATE", "REVOKE", "REINSTATE", "DEPRECATE", "ASCERTAIN", "BROWSE",
  "CRAWL", "DETECT", "DETERMINE", "ENUMERATE", "ENVISION", "EXAMINE",
  "EXPLORE", "EXPOSE", "FIND", "FOLLOW", "IDENTIFY", "INDEX", "INTROSPECT",
  "INVESTIGATE", "LIST", "LISTEN", "LOCATE", "LOOKUP", "MATCH", "MONITOR",
  "OBSERVE", "PEEK", "PINPOINT", "POLL", "PROBE", "RECOGNIZE", "RESOLVE",
  "REVEAL", "SAMPLE", "SCAN", "SEARCH", "SENSE", "SPOT", "SURVEY", "TRACE",
  "TRACK", "UNCOVER", "WATCH", "ACCESS", "ACQUIRE", "ASSEMBLE", "BUFFER",
  "CACHE", "CAPTURE", "CHECKIN", "CHECKOUT", "COLLECT", "COMPILE", "DOWNLOAD",
  "DUMP", "EXPORT", "EXTRACT", "FETCH", "GATHER", "HARVEST", "IMPORT",
  "INGEST", "LOAD", "MIRROR", "OBTAIN", "OPEN", "PREFETCH", "PULL", "READ",
  "RECEIVE", "REPLICATE", "RETRIEVE", "SCRAPE", "SNAPSHOT", "STREAM",
  "SUBSCRIBE", "ABSTRACT", "AGGREGATE", "ANALYZE", "ANNOTATE", "APPROXIMATE",
  "ASSESS", "ATTRIBUTE", "AUDIT", "BENCHMARK", "BUCKET", "CALCULATE",
  "CALIBRATE", "CATEGORIZE", "CHECK", "CLASSIFY", "CLUSTER", "COMPARE",
  "COMPUTE", "CONVERT", "CORRELATE", "COUNT", "DECODE", "DECONSTRUCT",
  "DEDUCE", "DIAGNOSE", "DIFFERENTIATE", "DISTINGUISH", "ENCODE", "ESTIMATE",
  "EVALUATE", "EXTRAPOLATE", "FILTER", "FLAG", "FORECAST", "GENERALIZE",
  "GRADE", "GROUP", "HASH", "INFER", "INTERPOLATE", "INTERPRET", "JUDGE",
  "MEASURE", "MODEL", "NORMALIZE", "OPTIMIZE", "PARSE", "PREDICT",
  "PRIORITIZE", "PROFILE", "PROJECT", "QUANTIFY", "RANK", "RATE", "REASON",
  "RECOMPUTE", "RECONCILE", "REDUCE", "REVIEW", "SCORE", "SEGMENT", "SIMULATE",
  "SORT", "STANDARDIZE", "SYNTHESIZE", "TALLY", "TOKENIZE", "TRANSFORM",
  "TUNE", "VALIDATE", "VERIFY", "ACCEPT", "ALLOCATE", "APPROVE", "ASSIGN",
  "AUCTION", "BARGAIN", "BID", "BILL", "BOOK", "BORROW", "BUY", "CHARGE",
  "CHARGEBACK", "CLAIM", "CLEAR", "CLOSE", "COMMIT", "COUNTERSIGN", "CREDIT",
  "DEALLOCATE", "DEBIT", "DECLINE", "DEPOSIT", "DISBURSE", "DIVEST", "ESCROW",
  "EXCHANGE", "FUND", "GRANT", "HIRE", "INVEST", "INVOICE", "ISSUE", "LEASE",
  "LEND", "LICENSE", "NEGOTIATE", "NOTARIZE", "ORDER", "PAY", "PLEDGE",
  "PRICE", "PROCESS", "PURCHASE", "QUOTE", "REDEEM", "REFUND", "REIMBURSE",
  "REJECT", "REMIT", "RENT", "REQUEST", "RESERVE", "RETIRE", "SELL", "SETTLE",
  "SIGN", "SPONSOR", "SUBMIT", "TENDER", "TRADE", "TRANSFER", "UNDERWRITE",
  "VOID", "WAIVE", "WITHDRAW", "ADJUST", "ALTER", "AMEND", "ANONYMIZE",
  "APPEND", "ARCHIVE", "BRANCH", "CHANGE", "COMBINE", "COMPRESS", "CONFIGURE",
  "DECOMPRESS", "DECRYPT", "DOWNGRADE", "DUPLICATE", "EDIT", "ENCRYPT",
  "EXTEND", "FIX", "FORK", "INSERT", "JOIN", "MASK", "MERGE", "MIGRATE",
  "MODIFY", "OBFUSCATE", "OVERRIDE", "OVERWRITE", "PREPEND", "PURGE",
  "REASSIGN", "REBASE", "RECONFIGURE", "REDACT", "REDO", "REFACTOR", "REFRESH",
  "RELABEL", "REMOVE", "RENAME", "RENEW", "REORDER", "REORGANIZE", "REPAIR",
  "REPATH", "REPLACE", "REROUTE", "RESCHEDULE", "RESET", "RESIZE", "RESTORE",
  "RESTRUCTURE", "RETAG", "REVERT", "REVISE", "ROLLBACK", "ROTATE", "SET",
  "SPLIT", "SWAP", "TRUNCATE", "UNARCHIVE", "UNASSIGN", "UNDO", "UPDATE",
  "UPGRADE", "AUTHOR", "BUILD", "COMPOSE", "CONSTRUCT", "CRAFT", "CREATE",
  "DECLARE", "DEFINE", "DESIGN", "DRAFT", "ESTABLISH", "FABRICATE", "FORGE",
  "FORMULATE", "GENERATE", "INSTANTIATE", "MINT", "ORIGINATE", "PRODUCE",
  "PROTOTYPE", "PROVISION", "RENDER", "SCAFFOLD", "SEED", "SPAWN", "TEMPLATE",
  "ACKNOWLEDGE", "ADVISE", "ALERT", "ANNOUNCE", "BEACON", "BROADCAST",
  "COMMENT", "DISCLOSE", "ECHO", "EMIT", "FORWARD", "GREET", "INFORM",
  "INVITE", "MESSAGE", "PING", "PROMPT", "PUBLISH", "RELAY", "REMIND", "REPLY",
  "REPORT", "RESPOND", "SIGNAL", "SOLICIT", "SUMMON", "UNSUBSCRIBE", "WARN",
  "ABORT", "ALLOW", "ATTEST", "AUDITLOG", "AUTHENTICATE", "AUTHORIZE", "AWAIT",
  "BLOCK", "CHALLENGE", "CHECKPOINT", "DENY", "DEREGISTER", "DISPATCH",
  "ENFORCE", "FALLBACK", "GOVERN", "HANDOFF", "HEARTBEAT", "INVOKE", "PERMIT",
  "QUARANTINE", "REGISTER", "RETRY", "ROUTE", "YIELD", "ATTACH", "BIND",
  "BOOTSTRAP", "CANCEL", "COMMISSION", "CONNECT", "CORDON", "CUTOVER",
  "DECOMMISSION", "DELIVER", "DEMOTE", "DEPLOY", "DEPROVISION", "DETACH",
  "DISABLE", "DISCONNECT", "DRAIN", "ENABLE", "ENROLL", "EVICT", "EXPIRE",
  "FAILBACK", "FAILOVER", "INITIATE", "INSTALL", "LINK", "MOUNT", "OFFBOARD",
  "ONBOARD", "PAIR", "PAUSE", "PROMOTE", "REBOOK", "REBOOT", "RECOVER",
  "RESTART", "RESUME", "ROLLOUT", "SCHEDULE", "SHIP", "SHUTDOWN", "START",
  "STOP", "TERMINATE", "UNBIND", "UNCORDON", "UNDEPLOY", "UNINSTALL", "UNLINK",
  "UNMOUNT", "UNPAIR"]

def agtpCatalog : Catalog where
  approved := approvedVerbs
  embedded := embeddedVerbs
  legacy := [("GET", "FETCH"), ("POST", "CREATE"), ("PUT", "REPLACE"),
    ("DELETE", "REMOVE"), ("PATCH", "MODIFY")]

end Agtp
