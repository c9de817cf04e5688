import ChatWarden.Json

/-!
# Actors

An actor is whoever sent a message: the user, the channel, and the guild and roles if there are
any. A message is either sent in a guild or direct; setting the one clears the other.
-/

namespace ChatWarden

/-- The number of a user, channel, guild or role. -/
abbrev Id := UInt64

structure Actor where
  user : Id
  channel : Id
  guild : Option Id := none
  roles : List Id := []
  isMaintainer : Bool := false
  isDirect : Bool := false
deriving DecidableEq

namespace Actor

def inGuild (a : Actor) (guild : Id) : Actor :=
  { a with guild := some guild, isDirect := false }

def directMessage (a : Actor) : Actor :=
  { a with guild := none, isDirect := true }

def withRoles (a : Actor) (roles : List Id) : Actor :=
  { a with roles }

def maintainer (a : Actor) (isMaintainer : Bool) : Actor :=
  { a with isMaintainer }

def toJson (a : Actor) : Json :=
  let number (id : Id) : Json := .int id.toNat
  .object [
    ("user_id", number a.user),
    ("channel_id", number a.channel),
    ("guild_id", (a.guild.map number).getD .null),
    ("role_ids", .array (a.roles.map number)),
    ("is_maintainer", .bool a.isMaintainer),
    ("is_direct_message", .bool a.isDirect)]

end Actor

end ChatWarden
