import ClusterTopology.Data.Reader
import ClusterTopology.Component
/-!
What the placement driver's own interface answers: members, their health, and stores.

Every part of a record has a default except the two texts of a label and the store of an entry.  The
lists of members and of stores may be `null`, and so may the labels of a store.

Of the three answers two are records with the list under a key, and the one about health is a list by itself.
A list that may be `null` is read as an optional one, and stands for the empty list when it is not there.  The
client URLs of a member and the list of health are no such lists: a `null` there cannot be read, and with it the
whole answer.

Keys without a meaning are passed over.  A store is a column store when one of its labels is `engine` with the
value `tiflash`, in just these letters.
-/

namespace ClusterTopology.Pd

open ClusterTopology.Data
open ClusterTopology.Data.Fields (required withDefault)

/-! ### Members -/

structure Member where
  name : String
  memberId : UInt64
  clientUrls : List String
  binaryVersion : String
  gitHash : String
  deployPath : String
deriving DecidableEq, Repr

def Member.reader : Reader Member :=
  (Member.mk <$> withDefault "name" Reader.text "" <*> withDefault "member_id" Reader.uint64 0
    <*> withDefault "client_urls" (Reader.list Reader.text) []
    <*> withDefault "binary_version" Reader.text "" <*> withDefault "git_hash" Reader.text ""
    <*> withDefault "deploy_path" Reader.text "").reader "PdMember" .refused

def membersReader : Reader (List Member) :=
  ((·.getD []) <$> withDefault "members" (Reader.list Member.reader).option none).reader
    "MembersResponse" .refused

structure MemberHealth where
  name : String
  memberId : UInt64
  health : Bool
deriving DecidableEq, Repr

def MemberHealth.reader : Reader MemberHealth :=
  (MemberHealth.mk <$> withDefault "name" Reader.text "" <*> withDefault "member_id" Reader.uint64 0
    <*> withDefault "health" Reader.bool false).reader "PdMemberHealth" .refused

def healthReader : Reader (List MemberHealth) :=
  Reader.list MemberHealth.reader

/-! ### Stores -/

structure StoreLabel where
  key : String
  value : String
deriving DecidableEq, Repr

def StoreLabel.reader : Reader StoreLabel :=
  (StoreLabel.mk <$> required "key" Reader.text <*> required "value" Reader.text).reader
    "StoreLabel" .refused

structure Store where
  id : UInt64
  address : String
  stateName : String
  version : String
  statusAddress : String
  labels : Option (List StoreLabel)
  startTimestamp : Int
deriving DecidableEq, Repr

namespace Store

def reader : Reader Store :=
  (Store.mk <$> withDefault "id" Reader.uint64 0 <*> withDefault "address" Reader.text ""
    <*> withDefault "state_name" Reader.text "" <*> withDefault "version" Reader.text ""
    <*> withDefault "status_address" Reader.text ""
    <*> withDefault "labels" (Reader.list StoreLabel.reader).option none
    <*> withDefault "start_timestamp" Reader.int64 0).reader "StoreMeta" .refused

/-- Column stores carry the label `engine` with the value `tiflash`. -/
def isTiflash (s : Store) : Bool :=
  (s.labels.getD []).any fun l => l.key == "engine" && l.value == "tiflash"

end Store

/-- The reader of an entry of the list of stores, which wraps a store. -/
def entryReader : Reader Store :=
  (id <$> required "store" Store.reader).reader "StoreEntry" .refused

def storesReader : Reader (List Store) :=
  ((·.getD []) <$> withDefault "stores" (Reader.list entryReader).option none).reader
    "StoresResponse" .refused

end ClusterTopology.Pd
