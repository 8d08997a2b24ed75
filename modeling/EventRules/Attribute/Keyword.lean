/-
Every keyword of rule documents, with the type of its values.
-/
import EventRules.Attribute.Value
namespace EventRules.Keyword

/-! ## Conditions on the world and the position -/

def random : Key .float := ⟨"random"⟩
def dimension : Key .string := ⟨"dimension"⟩
def dimensionMod : Key .string := ⟨"dimensionmod"⟩
def minTime : Key .integer := ⟨"mintime"⟩
def maxTime : Key .integer := ⟨"maxtime"⟩
def minHeight : Key .integer := ⟨"minheight"⟩
def maxHeight : Key .integer := ⟨"maxheight"⟩
def weather : Key .string := ⟨"weather"⟩
def category : Key .string := ⟨"category"⟩
def difficulty : Key .string := ⟨"difficulty"⟩
def minSpawnDistance : Key .float := ⟨"minspawndist"⟩
def maxSpawnDistance : Key .float := ⟨"maxspawndist"⟩
def minLight : Key .integer := ⟨"minlight"⟩
def maxLight : Key .integer := ⟨"maxlight"⟩
def minDifficulty : Key .float := ⟨"mindifficulty"⟩
def maxDifficulty : Key .float := ⟨"maxdifficulty"⟩
def seeSky : Key .boolean := ⟨"seesky"⟩
def block : Key .json := ⟨"block"⟩
def blockOffset : Key .json := ⟨"blockoffset"⟩
def biome : Key .string := ⟨"biome"⟩
def biomeType : Key .string := ⟨"biometype"⟩
def structureName : Key .string := ⟨"structure"⟩

/-! ## Conditions on the player and on integrations -/

def helmet : Key .json := ⟨"helmet"⟩
def chestplate : Key .json := ⟨"chestplate"⟩
def leggings : Key .json := ⟨"leggings"⟩
def boots : Key .json := ⟨"boots"⟩
def playerHeldItem : Key .json := ⟨"playerhelditem"⟩
/-- A condition for experience rules, an action for spawn rules. -/
def heldItem : Key .json := ⟨"helditem"⟩
def offHandItem : Key .json := ⟨"offhanditem"⟩
def bothHandsItem : Key .json := ⟨"bothhandsitem"⟩
def state : Key .string := ⟨"state"⟩
def playerState : Key .string := ⟨"pstate"⟩
def summer : Key .boolean := ⟨"summer"⟩
def winter : Key .boolean := ⟨"winter"⟩
def spring : Key .boolean := ⟨"spring"⟩
def autumn : Key .boolean := ⟨"autumn"⟩
def gameStage : Key .string := ⟨"gamestage"⟩
def inCity : Key .boolean := ⟨"incity"⟩
def inStreet : Key .boolean := ⟨"instreet"⟩
def inSphere : Key .boolean := ⟨"insphere"⟩
def inBuilding : Key .boolean := ⟨"inbuilding"⟩
def amulet : Key .json := ⟨"amulet"⟩
def ring : Key .json := ⟨"ring"⟩
def belt : Key .json := ⟨"belt"⟩
def trinket : Key .json := ⟨"trinket"⟩
def head : Key .json := ⟨"head"⟩
def body : Key .json := ⟨"body"⟩
def charm : Key .json := ⟨"charm"⟩

/-! ## Conditions on the entity and the event -/

def hostile : Key .boolean := ⟨"hostile"⟩
def passive : Key .boolean := ⟨"passive"⟩
def canSpawnHere : Key .boolean := ⟨"canspawnhere"⟩
def notColliding : Key .boolean := ⟨"notcolliding"⟩
def spawner : Key .boolean := ⟨"spawner"⟩
def inControl : Key .boolean := ⟨"incontrol"⟩
def mob : Key .string := ⟨"mob"⟩
def player : Key .boolean := ⟨"player"⟩
def realPlayer : Key .boolean := ⟨"realplayer"⟩
def fakePlayer : Key .boolean := ⟨"fakeplayer"⟩
def explosion : Key .boolean := ⟨"explosion"⟩
def projectile : Key .boolean := ⟨"projectile"⟩
def fire : Key .boolean := ⟨"fire"⟩
def magic : Key .boolean := ⟨"magic"⟩
def source : Key .string := ⟨"source"⟩
def mod : Key .string := ⟨"mod"⟩
def minCount : Key .json := ⟨"mincount"⟩
def maxCount : Key .json := ⟨"maxcount"⟩
def dayCount : Key .integer := ⟨"daycount"⟩
def minDayCount : Key .integer := ⟨"mindaycount"⟩
def maxDayCount : Key .integer := ⟨"maxdaycount"⟩

/-! ## The rule itself and its outcome -/

def onJoin : Key .boolean := ⟨"onjoin"⟩
def phase : Key .string := ⟨"phase"⟩
def result : Key .string := ⟨"result"⟩
def continues : Key .boolean := ⟨"continue"⟩
def setXp : Key .integer := ⟨"setxp"⟩
def addXp : Key .float := ⟨"addxp"⟩
def multXp : Key .float := ⟨"multxp"⟩

/-! ## Actions -/

def healthSet : Key .float := ⟨"healthset"⟩
def healthMultiply : Key .float := ⟨"healthmultiply"⟩
def healthAdd : Key .float := ⟨"healthadd"⟩
def speedSet : Key .float := ⟨"speedset"⟩
def speedMultiply : Key .float := ⟨"speedmultiply"⟩
def speedAdd : Key .float := ⟨"speedadd"⟩
def damageSet : Key .float := ⟨"damageset"⟩
def damageMultiply : Key .float := ⟨"damagemultiply"⟩
def damageAdd : Key .float := ⟨"damageadd"⟩
def sizeMultiply : Key .float := ⟨"sizemultiply"⟩
def sizeAdd : Key .float := ⟨"sizeadd"⟩
def angry : Key .boolean := ⟨"angry"⟩
def mobNbt : Key .json := ⟨"nbt"⟩
def customName : Key .string := ⟨"customname"⟩
def message : Key .string := ⟨"message"⟩
def armorHelmet : Key .json := ⟨"armorhelmet"⟩
def armorChest : Key .json := ⟨"armorchest"⟩
def armorLegs : Key .json := ⟨"armorlegs"⟩
def armorBoots : Key .json := ⟨"armorboots"⟩
def potion : Key .string := ⟨"potion"⟩

end EventRules.Keyword
